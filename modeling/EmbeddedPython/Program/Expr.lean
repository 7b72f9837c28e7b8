import EmbeddedPython.Program.Constant

/-!
# Expressions

What programs compute values with.  Every form of the language has a place
here, so that a program which compiles can be told from one that does not.
-/

namespace EmbeddedPython

/-- An operator in front of one operand. -/
inductive UnaryOperator where
  | plus
  | negate
  | invert
  | not
deriving Repr, DecidableEq

/-- An operator between two operands. -/
inductive BinaryOperator where
  | add
  | subtract
  | multiply
  | matrix
  | divide
  | quotient
  | remainder
  | power
  | shiftLeft
  | shiftRight
  | bitAnd
  | bitXor
  | bitOr
deriving Repr, DecidableEq

namespace BinaryOperator

/-- The sign of an operator. -/
def sign : BinaryOperator → String
  | add => "+"
  | subtract => "-"
  | multiply => "*"
  | matrix => "@"
  | divide => "/"
  | quotient => "//"
  | remainder => "%"
  | power => "**"
  | shiftLeft => "<<"
  | shiftRight => ">>"
  | bitAnd => "&"
  | bitXor => "^"
  | bitOr => "|"

/-- All operators. -/
def all : List BinaryOperator :=
  [add, subtract, multiply, matrix, divide, quotient, remainder, power, shiftLeft, shiftRight,
    bitAnd, bitXor, bitOr]

/-- The operator of a sign. -/
def ofSign? (s : String) : Option BinaryOperator :=
  all.find? fun op => op.sign = s

/-- How tightly an operator between two operands binds, among those that
group to the left. -/
def strength : BinaryOperator → Nat
  | bitOr => 1
  | bitXor => 2
  | bitAnd => 3
  | shiftLeft | shiftRight => 4
  | add | subtract => 5
  | multiply | matrix | divide | quotient | remainder => 6
  | power => 8

end BinaryOperator

/-- A comparison. -/
inductive Comparison where
  | equal
  | unequal
  | less
  | atMost
  | greater
  | atLeast
  | same
  | notSame
  | member
  | notMember
deriving Repr, DecidableEq

/-- The sign of a comparison. -/
def Comparison.sign : Comparison → String
  | equal => "=="
  | unequal => "!="
  | less => "<"
  | atMost => "<="
  | greater => ">"
  | atLeast => ">="
  | same => "is"
  | notSame => "is not"
  | member => "in"
  | notMember => "not in"

/-- The kinds of collections that are written out. -/
inductive Collection where
  | tuple
  | list
  | set
  | dictionary
  /-- What gives its items one by one. -/
  | generator
deriving Repr, DecidableEq

/-- The parameters of a function.  `rest` takes the arguments behind those of
`positional`, `further` holds the names of those that cannot be given by
position, and `others` takes the arguments of all other names. -/
structure Signature where
  positional : List String
  rest : Option String
  further : List String
  others : Option String
deriving Repr, DecidableEq, Inhabited

namespace Signature

/-- No parameters. -/
def none : Signature := ⟨[], .none, [], .none⟩

/-- All names of parameters. -/
def names (s : Signature) : List String :=
  s.positional ++ s.rest.toList ++ s.further ++ s.others.toList

end Signature

/-- An expression. -/
inductive Expr where
  | constant (c : Constant)
  | name (name : String)
  /-- The items of a collection, written out. -/
  | display (kind : Collection) (items : List Expr)
  /-- A key and a value of a dictionary. -/
  | entry (key value : Expr)
  /-- The items of a collection in place of one item. -/
  | starred (e : Expr)
  /-- The entries of a dictionary in place of one entry. -/
  | spread (e : Expr)
  | member (e : Expr) (field : String)
  | subscript (e index : Expr)
  /-- A stretch of a sequence, by those of its bounds that are given. -/
  | slice (bounds : List Expr)
  | call (f : Expr) (args : List Expr)
  /-- An argument by name. -/
  | keyword (name : String) (e : Expr)
  | unary (op : UnaryOperator) (e : Expr)
  | binary (op : BinaryOperator) (a b : Expr)
  /-- Comparisons of neighbours, all of which have to hold. -/
  | compare (first : Expr) (comparisons : List Comparison) (others : List Expr)
  | both (a b : Expr)
  | either (a b : Expr)
  | conditional (condition a b : Expr)
  /-- Binds a name on the way. -/
  | binding (name : String) (e : Expr)
  /-- A function without a name.  The default values are given by name. -/
  | function (signature : Signature) (defaults : List Expr) (body : Expr)
  /-- A collection given by a rule: the item and the parts of the rule. -/
  | comprehension (kind : Collection) (item : Expr) (parts : List Expr)
  /-- A text with values in it. -/
  | template (parts : List Expr)
  /-- A value in a text: how it is converted first, and its format. -/
  | formatted (e : Expr) (conversion : Option Char) (format : Option Expr)
  | yielding (e : Option Expr)
  | awaiting (e : Expr)
deriving Repr, Inhabited

namespace Expr

/-- What messages call a constant. -/
def constantKind : Value → String
  | .none => "None"
  | .bool true => "True"
  | .bool false => "False"
  | .object "ellipsis" => "ellipsis"
  | _ => "literal"

/-- What messages call an expression. -/
def kind : Expr → String
  | constant c => constantKind c.value
  | name _ => "name"
  | display .tuple _ => "tuple"
  | display .list _ => "list"
  | display .set _ => "set display"
  | display .dictionary _ => "dict literal"
  | display .generator _ => "generator expression"
  | entry _ _ | keyword _ _ | slice _ => "expression"
  | starred _ | spread _ => "starred"
  | member _ _ => "attribute"
  | subscript _ _ => "subscript"
  | call _ _ => "function call"
  | unary _ _ | binary _ _ _ | both _ _ | either _ _ => "expression"
  | compare _ _ _ => "comparison"
  | conditional _ _ _ => "conditional expression"
  | binding _ _ => "named expression"
  | function _ _ _ => "lambda"
  | comprehension .list _ _ => "list comprehension"
  | comprehension .set _ _ => "set comprehension"
  | comprehension .dictionary _ _ => "dict comprehension"
  | comprehension _ _ _ => "generator expression"
  | template _ | formatted _ _ _ => "f-string expression"
  | yielding _ => "yield expression"
  | awaiting _ => "await expression"

end Expr

end EmbeddedPython
