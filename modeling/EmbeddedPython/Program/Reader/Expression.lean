import EmbeddedPython.Program.Expr
import EmbeddedPython.Program.Literal

/-!
# Reading expressions

A `Reading` takes tokens from the front of a row.  Each form of expression has
its reader, from the loosest (`expression`) to the tightest (`atom`); the
operators between two operands that group to the left share one, which is told
how tightly the operators have to bind.

All readers are recursive in a number of steps, which `Reading.run` takes from
the number of tokens: a reader that is called inside of another one has one
step less, and no form is nested deeper than it has tokens.
-/

namespace EmbeddedPython

/-- Why tokens could not be read, and the line of the token that does not fit. -/
structure Refusal where
  fault : SyntaxFault
  line : Nat
deriving Repr

/-- A reader of tokens. -/
abbrev Reading (α : Type) := StateT (List Lexeme) (Except Refusal) α

namespace Reading

/-! ## Single tokens -/

/-- The next token. -/
def peek : Reading Token := do
  match ← get with
  | lexeme :: _ => return lexeme.token
  | [] => return .ending

/-- The token behind the next one. -/
def peekSecond : Reading Token := do
  match ← get with
  | _ :: lexeme :: _ => return lexeme.token
  | _ => return .ending

/-- The line of the next token. -/
def line : Reading Nat := do
  match ← get with
  | lexeme :: _ => return lexeme.line
  | [] => return 0

/-- Takes the next token. -/
def advance : Reading Unit :=
  modify List.tail

/-- The end in a fault. -/
def fail {α : Type} (f : SyntaxFault) : Reading α := do
  throw ⟨f, ← line⟩

/-- What is read without looking at further tokens. -/
def ofExcept {α : Type} : Except SyntaxFault α → Reading α
  | .ok a => return a
  | .error f => fail f

/-- The fault of a token that cannot stand where it is. -/
def faultOf : Token → SyntaxFault
  | .fault _ f => f
  | .indent => .unexpectedIndent
  | .dedent => .unexpectedUnindent
  | _ => .invalid

/-- The end in the fault of the next token. -/
def refuse {α : Type} : Reading α := do
  fail (faultOf (← peek))

/-- The next token is a sign. -/
def atSign (s : String) : Reading Bool := do
  match ← peek with
  | .sign t => return s = t
  | _ => return false

/-- The next token is a word of the language. -/
def atWord (s : String) : Reading Bool := do
  match ← peek with
  | .word t => return s = t
  | _ => return false

/-- Takes a sign if it is next. -/
def takeSign (s : String) : Reading Bool := do
  let found ← atSign s
  if found then advance
  return found

/-- Takes a word if it is next. -/
def takeWord (s : String) : Reading Bool := do
  let found ← atWord s
  if found then advance
  return found

/-- Takes a sign that has to be next. -/
def expectSign (s : String) : Reading Unit := do
  if !(← takeSign s) then refuse

/-- Takes a word that has to be next. -/
def expectWord (s : String) : Reading Unit := do
  if !(← takeWord s) then refuse

/-- Takes a name that has to be next. -/
def expectName : Reading String := do
  match ← peek with
  | .name s =>
    advance
    return s
  | _ => refuse

/-- The next token can start an expression. -/
def startsExpression : Token → Bool
  | .name _ | .number _ | .text _ => true
  | .word w => ["False", "None", "True", "await", "lambda", "not"].contains w
  | .sign s => ["(", "[", "\x7b", "-", "+", "~", "..."].contains s
  | _ => false

/-- The line of the first of some tokens. -/
def lineOf (lexemes : List Lexeme) : Nat :=
  (lexemes.head?.map Lexeme.line).getD 0

/-- The fault of tokens that were refused.  A fault that ends the tokens goes
before most others; a bracket that is never closed does so if it was opened on an
earlier line. -/
def behind (lexemes : List Lexeme) (r : Refusal) : SyntaxFault :=
  match r.fault, lexemes.getLast? with
  | .unexpectedIndent, _ | .unexpectedUnindent, _ | .missingBlock _ _, _ => r.fault
  | _, some ⟨.fault false f, _⟩ => f
  | _, some ⟨.fault true (.unclosed bracket), opened⟩ =>
    if opened < r.line then .unclosed bracket else r.fault
  | _, _ => r.fault

/-! ## Texts -/

/-- The texts in a row. -/
def texts (steps : Nat) : Reading (List TextLiteral) := do
  match steps with
  | 0 => return []
  | steps + 1 =>
    match ← peek with
    | .text t =>
      advance
      return t :: (← texts steps)
    | _ => return []

/-- A fault of a text with values in it. -/
def templateFault (text : String) : SyntaxFault :=
  .form ("f-string: " ++ text)

/-- The characters in front of the next value, and the rest from its bracket
on.  Doubled brackets stand for single ones.  Inside of a format, the closing
bracket ends everything. -/
def templateText (inFormat : Bool) : List Char → Except SyntaxFault (List Char × List Char)
  | [] => .ok ([], [])
  | '\x7b' :: '\x7b' :: rest =>
    if inFormat then .ok ([], '\x7b' :: '\x7b' :: rest)
    else (templateText inFormat rest).map fun (text, after) => ('\x7b' :: text, after)
  | '\x7d' :: '\x7d' :: rest =>
    if inFormat then .ok ([], '\x7d' :: '\x7d' :: rest)
    else (templateText inFormat rest).map fun (text, after) => ('\x7d' :: text, after)
  | c :: rest =>
    if c = '\x7b' then .ok ([], c :: rest)
    else if c = '\x7d' then
      if inFormat then .ok ([], c :: rest)
      else .error (templateFault "single '\x7d' is not allowed")
    else (templateText inFormat rest).map fun (text, after) => (c :: text, after)

/-- The characters of a value in a text, and the rest from what ends it on.
`quote` is the quote of a text inside of the value, and `closings` are the
brackets that are still to close. -/
def valueText (quote : Option Char) (closings : List Char) :
    List Char → Except SyntaxFault (List Char × List Char)
  | [] => .error (templateFault "expecting '\x7d'")
  | c :: rest =>
    let more (quote : Option Char) (closings : List Char) :
        Except SyntaxFault (List Char × List Char) :=
      (valueText quote closings rest).map fun (text, after) => (c :: text, after)
    if c = '\\' then
      .error (.form "f-string expression part cannot include a backslash")
    else
      match quote with
      | some q => more (if c = q then none else quote) closings
      | none =>
        if c = '\x27' || c = '\x22' then more (some c) closings
        else if c = '(' || c = '[' || c = '\x7b' then more none (Token.closing c :: closings)
        else if c = '#' then .error (.form "f-string expression part cannot include '#'")
        else
          match closings with
          | [] =>
            let ends := match c, rest with
              | '!', '=' :: _ => false
              | '=', '=' :: _ => false
              | '!', _ | ':', _ | '\x7d', _ | '=', _ => true
              | _, _ => false
            if ends then .ok ([], c :: rest)
            else if c = ')' || c = ']' then .error (templateFault ("unmatched " ++ SyntaxFault.inQuotes c))
            else if (c = '=' || c = '!' || c = '<' || c = '>') then
              match rest with
              | '=' :: after =>
                (valueText none [] after).map fun (text, after) => (c :: '=' :: text, after)
              | _ => more none []
            else more none []
          | closing :: outer =>
            if c = closing then more none outer
            else if c = ')' || c = ']' || c = '\x7d' then
              .error (templateFault ("closing parenthesis " ++ SyntaxFault.inQuotes c
                ++ " does not match opening parenthesis "
                ++ SyntaxFault.inQuotes (Token.opening closing)))
            else more none closings
termination_by cs => cs.length

/-- The conversion in front of what follows it. -/
def conversionOf : List Char → Except SyntaxFault (Option Char × List Char)
  | '!' :: c :: rest =>
    if c = 's' || c = 'r' || c = 'a' then .ok (some c, rest)
    else
      .error (templateFault "invalid conversion character: expected 's', 'r', or 'a'")
  | '!' :: [] => .error (templateFault "expecting '\x7d'")
  | cs => .ok (none, cs)

/-- The literal part of a text with values. -/
def literalPart (raw : Bool) (text : List Char) : Except SyntaxFault (List Expr) := do
  if text.isEmpty then return []
  return [.constant (TextLiteral.valueOf (← TextLiteral.decode raw text))]

/-- The value of texts in a row that hold no values. -/
def joinTexts (parts : List TextLiteral) : Except SyntaxFault Expr := do
  if parts.all TextLiteral.octets then
    let octets ← parts.mapM fun t => TextLiteral.octetsOf t.raw t.body
    return .constant ⟨.bytes octets.flatten, rfl⟩
  else
    let numbers ← parts.mapM fun t => TextLiteral.decode t.raw t.body
    return .constant (TextLiteral.valueOf numbers.flatten)

/-! ## Checks -/

/-- A form that a name can be bound to instead of a value. -/
def bindable : Expr → Bool
  | .name _ | .member _ _ | .subscript _ _ => true
  | _ => false

/-- The fault of an expression that nothing can be bound to.  Only the items of
a tuple or a list may be starred. -/
def targetFault? (starred : Bool) (e : Expr) : Option SyntaxFault :=
  match e with
  | .name _ | .member _ _ | .subscript _ _ => none
  | .display .tuple items | .display .list items => faultIn items
  | .starred inner =>
    if starred then targetFault? false inner
    else some (.form "starred assignment target must be in a list or tuple")
  | e => some (.target e.kind false)
where
  /-- The fault of the first such item. -/
  faultIn : List Expr → Option SyntaxFault
    | [] => none
    | item :: rest => (targetFault? true item).or (faultIn rest)

/-- An expression that something can be bound to. -/
def expectTarget (e : Expr) : Reading Unit :=
  match targetFault? false e with
  | some f => fail f
  | none => return

/-- A position in the order of arguments: by position, by name, of a whole
dictionary. -/
def argumentRank : Expr → Nat
  | .keyword _ _ => 1
  | .spread _ => 2
  | _ => 0

/-- The fault of arguments that are out of order. -/
def argumentFault? (seen : Nat) : List Expr → Option SyntaxFault
  | [] => none
  | .starred _ :: rest =>
    if seen = 2 then
      some (.form "iterable argument unpacking follows keyword argument unpacking")
    else argumentFault? seen rest
  | e :: rest =>
    if argumentRank e = 0 && 0 < seen then
      some (.form (if seen = 2 then "positional argument follows keyword argument unpacking"
        else "positional argument follows keyword argument"))
    else argumentFault? (max seen (argumentRank e)) rest

/-! ## Expressions -/

/-- How far a row of parameters was read. -/
inductive ParameterPart where
  | start
  /-- Behind those that are only given by position. -/
  | behindSlash
  /-- Behind those that can be given by position. -/
  | behindStar
deriving DecidableEq

/-- The parameters of a function, with the default values given by name and the
types in order. -/
structure Parameters where
  signature : Signature
  defaults : List Expr
  types : List Expr

namespace Parameters

/-- No parameters. -/
def none : Parameters := ⟨.none, [], []⟩

/-- The parameters with one more in the signature. -/
def add (p : Parameters) (signature : Signature) (defaults types : List Expr) : Parameters :=
  ⟨signature, p.defaults ++ defaults, p.types ++ types⟩

end Parameters

/-- An expression that is more than operands with operators between them, or
one that an assignment in place of a comparison is not told of. -/
def isLoose : Expr → Bool
  | .unary .not _ | .both _ _ | .either _ _ | .conditional _ _ _ | .function _ _ _
  | .compare _ _ _ | .starred _ | .display .tuple _ | .display .list _ | .display .generator _
  | .comprehension .generator _ _ | .constant ⟨.none, _⟩ | .constant ⟨.bool _, _⟩ => true
  | _ => false

/-- The fault of an assignment in place of a comparison. -/
def equalityFault? : Expr → Option SyntaxFault
  | .name _ =>
    some (.form "invalid syntax. Maybe you meant '==' or ':=' instead of '='?")
  | e => if isLoose e then none else some (.target e.kind true)

/-- An item of a rule that stands for one item only. -/
def checkSingle : Expr → Reading Unit
  | .starred _ => fail (.form "iterable unpacking cannot be used in comprehension")
  | _ => return

/-- The sign of a comparison. -/
def comparison? : Reading (Option Comparison) := do
  let signs : List (String × Comparison) :=
    [("==", .equal), ("!=", .unequal), ("<", .less), ("<=", .atMost), (">", .greater),
      (">=", .atLeast)]
  match ← peek with
  | .sign s =>
    match signs.lookup s with
    | some c =>
      advance
      return some c
    | none => return none
  | .word "in" =>
    advance
    return some .member
  | .word "is" =>
    advance
    return some (if ← takeWord "not" then .notSame else .same)
  | .word "not" =>
    match ← peekSecond with
    | .word "in" =>
      advance
      advance
      return some .notMember
    | _ => return none
  | _ => return none

/-- The next token ends a row of items. -/
def endsRow : Token → Bool
  | .sign s =>
    [")", "]", "\x7d", "=", ":", ";", ":=", "+=", "-=", "*=", "/=", "//=", "%=", "@=", "&=",
      "|=", "^=", ">>=", "<<=", "**="].contains s
  | .word w => w = "in"
  | .newline | .ending | .fault _ _ | .dedent | .indent => true
  | _ => false

mutual

/-- An expression without a star. -/
def expression (steps : Nat) : Reading Expr := do
  match steps with
  | 0 => refuse
  | steps + 1 =>
    if ← atWord "lambda" then lambda steps
    else
      let a ← disjunction steps
      if ← takeWord "if" then
        let condition ← disjunction steps
        if ← takeWord "else" then
          let b ← expression steps
          return .conditional condition a b
        else if ← atSign ":" then refuse
        else fail (match ← peek with
          | .fault _ f => f
          | _ => .form "expected 'else' after 'if' expression")
      else return a

/-- A function without a name. -/
def lambda (steps : Nat) : Reading Expr := do
  match steps with
  | 0 => refuse
  | steps + 1 =>
    expectWord "lambda"
    let found ← parameters steps false ":"
    expectSign ":"
    let body ← expression steps
    return .function found.signature found.defaults body

/-- The parameters of a function, up to a sign. -/
def parameters (steps : Nat) (typed : Bool) (stop : String) : Reading Parameters := do
  match steps with
  | 0 => refuse
  | steps + 1 => parametersFrom steps typed stop .start .none

/-- Further parameters, behind some part of the row. -/
def parametersFrom (steps : Nat) (typed : Bool) (stop : String) (part : ParameterPart)
    (found : Parameters) : Reading Parameters := do
  match steps with
  | 0 => refuse
  | steps + 1 =>
    if ← atSign stop then return found
    else
      let again (part : ParameterPart) (found : Parameters) : Reading Parameters := do
        if ← takeSign "," then parametersFrom steps typed stop part found
        else if ← atSign stop then return found
        else refuse
      if ← atSign "/" then
        match part with
        | .start =>
          if found.signature.positional.isEmpty then refuse
          advance
          again .behindSlash found
        | .behindSlash => fail (.form "/ may appear only once")
        | .behindStar => fail (.form "/ must be ahead of *")
      else if ← takeSign "**" then
        let (n, types) ← parameterName steps typed
        if ← atSign "=" then fail (.form "var-keyword argument cannot have default value")
        if ← takeSign "," then
          if !(← atSign stop) then
            fail (.form "arguments cannot follow var-keyword argument")
        if !(← atSign stop) then refuse
        return found.add { found.signature with others := some n } [] types
      else if ← takeSign "*" then
        if part = .behindStar then fail (.form "* argument may appear only once")
        match ← peek with
        | .name _ =>
          let (n, types) ← restName steps typed
          if ← atSign "=" then fail (.form "var-positional argument cannot have default value")
          again .behindStar (found.add { found.signature with rest := some n } [] types)
        | .sign "," =>
          match ← peekSecond with
          | .name _ => again .behindStar found
          | _ => fail (.form "named arguments must follow bare *")
        | .sign t => if t = stop then fail (.form "named arguments must follow bare *") else refuse
        | _ => refuse
      else
        if ← atSign "(" then
          fail (.form (if typed then "Function parameters cannot be parenthesized"
            else "Lambda expression parameters cannot be parenthesized"))
        let (n, types) ← parameterName steps typed
        let default ← if ← takeSign "=" then
            if (← atSign ",") || (← atSign stop) then
              fail (.form "expected default value expression")
            pure [Expr.keyword n (← expression steps)]
          else pure []
        let s := found.signature
        if part = .behindStar then
          again part (found.add { s with further := s.further ++ [n] } default types)
        else
          if default.isEmpty && !found.defaults.isEmpty then
            fail (.form "non-default argument follows default argument")
          again part (found.add { s with positional := s.positional ++ [n] } default types)

/-- The name of what takes the rest of the arguments, and its type. -/
def restName (steps : Nat) (typed : Bool) : Reading (String × List Expr) := do
  match steps with
  | 0 => refuse
  | steps + 1 =>
    let n ← expectName
    if typed then
      if ← takeSign ":" then return (n, [← starExpression steps])
    return (n, [])

/-- The name of a parameter, with its type behind it where there may be one. -/
def parameterName (steps : Nat) (typed : Bool) : Reading (String × List Expr) := do
  match steps with
  | 0 => refuse
  | steps + 1 =>
    let n ← expectName
    if typed then
      if ← takeSign ":" then return (n, [← expression steps])
    return (n, [])

/-- The end in the fault of what follows an expression that nothing may follow
here.  Between brackets, another expression tells of a missing comma. -/
def refuseBehind {α : Type} (steps : Nat) (inBrackets : Bool) (e : Expr) : Reading α := do
  match steps with
  | 0 => refuse
  | steps + 1 =>
    let rest ← get
    match ← peek with
    | .sign "=" =>
      match StateT.run (operation steps 1) (rest.drop 1), equalityFault? e with
      | .ok (_, ⟨.sign s, _⟩ :: _), some f => if s = "=" || s = ":=" then refuse else fail f
      | .ok (_, ⟨.fault _ f, _⟩ :: _), _ => fail f
      | .ok _, some f => fail f
      | _, _ => refuse
    | .sign ":=" => fail (.form ("cannot use assignment expressions with " ++ e.kind))
    | t =>
      let isJoined := match e, t with
        | .name _, .text _ => true
        | _, _ => false
      if !inBrackets || isJoined || !startsExpression t then refuse
      else
        match StateT.run (expression steps) rest with
        | .ok (_, ⟨.fault _ f, _⟩ :: _) => fail f
        | .ok _ => fail (.form "invalid syntax. Perhaps you forgot a comma?")
        | .error _ => refuse

/-- Takes the bracket behind an expression. -/
def close (steps : Nat) (stop : String) (e : Expr) : Reading Unit := do
  match steps with
  | 0 => refuse
  | steps + 1 => if !(← takeSign stop) then refuseBehind steps true e

/-- An expression that may bind a name on the way. -/
def namedExpression (steps : Nat) : Reading Expr := do
  match steps with
  | 0 => refuse
  | steps + 1 =>
    match ← peek, ← peekSecond with
    | .name n, .sign ":=" =>
      advance
      advance
      let e ← expression steps
      return .binding n e
    | _, _ =>
      expression steps

/-- Operands of which one has to hold. -/
def disjunction (steps : Nat) : Reading Expr := do
  match steps with
  | 0 => refuse
  | steps + 1 =>
    let a ← conjunction steps
    if ← takeWord "or" then return .either a (← disjunction steps)
    else return a

/-- Operands all of which have to hold. -/
def conjunction (steps : Nat) : Reading Expr := do
  match steps with
  | 0 => refuse
  | steps + 1 =>
    let a ← inversion steps
    if ← takeWord "and" then return .both a (← conjunction steps)
    else return a

/-- What must not hold, or a comparison. -/
def inversion (steps : Nat) : Reading Expr := do
  match steps with
  | 0 => refuse
  | steps + 1 =>
    if ← takeWord "not" then return .unary .not (← inversion steps)
    else
      let a ← operation steps 1
      let (comparisons, others) ← comparisonsFrom steps
      return if comparisons.isEmpty then a else .compare a comparisons others

/-- Comparisons and what is compared with. -/
def comparisonsFrom (steps : Nat) : Reading (List Comparison × List Expr) := do
  match steps with
  | 0 => refuse
  | steps + 1 =>
    match ← comparison? with
    | none => return ([], [])
    | some c =>
      let b ← operation steps 1
      let (comparisons, others) ← comparisonsFrom steps
      return (c :: comparisons, b :: others)

/-- Operands with operators between them that bind at least so tightly. -/
def operation (steps strength : Nat) : Reading Expr := do
  match steps with
  | 0 => refuse
  | steps + 1 =>
    let a ← factor steps
    operationFrom steps strength a

/-- Further operators and operands. -/
def operationFrom (steps strength : Nat) (a : Expr) : Reading Expr := do
  match steps with
  | 0 => refuse
  | steps + 1 =>
    match ← peek with
    | .sign s =>
      match BinaryOperator.ofSign? s with
      | some op =>
        if op ≠ .power && strength ≤ op.strength then
          advance
          let b ← operation steps (op.strength + 1)
          operationFrom steps strength (.binary op a b)
        else return a
      | none => return a
    | _ => return a

/-- An operand with operators in front. -/
def factor (steps : Nat) : Reading Expr := do
  match steps with
  | 0 => refuse
  | steps + 1 =>
    if ← takeSign "+" then return .unary .plus (← factor steps)
    else if ← takeSign "-" then return .unary .negate (← factor steps)
    else if ← takeSign "~" then return .unary .invert (← factor steps)
    else
      let a ← if ← takeWord "await" then Expr.awaiting <$> primary steps else primary steps
      if ← takeSign "**" then return .binary .power a (← factor steps)
      else return a

/-- An atom with what is asked of it. -/
def primary (steps : Nat) : Reading Expr := do
  match steps with
  | 0 => refuse
  | steps + 1 =>
    let a ← atom steps
    trailers steps a

/-- What is asked of an expression. -/
def trailers (steps : Nat) (e : Expr) : Reading Expr := do
  match steps with
  | 0 => refuse
  | steps + 1 =>
    if ← takeSign "." then
      let n ← expectName
      trailers steps (.member e n)
    else if ← takeSign "(" then
      let args ← arguments steps true
      match argumentFault? 0 args with
      | some f => fail f
      | none => trailers steps (.call e args)
    else if ← takeSign "[" then
      let index ← subscripts steps
      close steps "]" index
      trailers steps (.subscript e index)
    else return e

/-- The arguments of a call, up to the closing bracket.  A rule that gives items
needs brackets of its own unless it is the only argument. -/
def arguments (steps : Nat) (first : Bool) : Reading (List Expr) := do
  match steps with
  | 0 => refuse
  | steps + 1 =>
    if ← takeSign ")" then return []
    else
      let a ← argument steps
      if ← (return (← atWord "for") || (← atWord "async")) then
        let parts ← rule steps
        if !first || (← atSign ",") then
          fail (.form "Generator expression must be parenthesized")
        expectSign ")"
        return [.comprehension .generator a parts]
      else if ← takeSign "," then return a :: (← arguments steps false)
      else
        close steps ")" a
        return [a]

/-- One argument of a call. -/
def argument (steps : Nat) : Reading Expr := do
  match steps with
  | 0 => refuse
  | steps + 1 =>
    if ← takeSign "*" then return .starred (← expression steps)
    else if ← takeSign "**" then return .spread (← expression steps)
    else
      match ← peek, ← peekSecond with
      | .name n, .sign "=" =>
        advance
        advance
        return .keyword n (← expression steps)
      | .word w, .sign "=" =>
        if ["True", "False", "None"].contains w then fail (.target w false) else refuse
      | _, _ =>
        let e ← namedExpression steps
        if ← atSign "=" then
          fail (.form "expression cannot contain assignment, perhaps you meant \x22==\x22?")
        return e

/-- What stands between the brackets behind a sequence. -/
def subscripts (steps : Nat) : Reading Expr := do
  match steps with
  | 0 => refuse
  | steps + 1 =>
    let a ← subscriptItem steps
    if ← atSign "," then return .display .tuple (a :: (← moreSubscripts steps))
    else
      match a with
      | .starred _ => return .display .tuple [a]
      | _ => return a

/-- Further parts of a subscript. -/
def moreSubscripts (steps : Nat) : Reading (List Expr) := do
  match steps with
  | 0 => refuse
  | steps + 1 =>
    if ← takeSign "," then
      if ← atSign "]" then return []
      else
        let a ← subscriptItem steps
        return a :: (← moreSubscripts steps)
    else return []

/-- One part of a subscript. -/
def subscriptItem (steps : Nat) : Reading Expr := do
  match steps with
  | 0 => refuse
  | steps + 1 =>
    if ← takeSign "*" then return .starred (← operation steps 1)
    else
      let first ← if ← atSign ":" then pure none else some <$> namedExpression steps
      if ← takeSign ":" then
        let second ← bound steps
        let third ← if ← takeSign ":" then bound steps else pure []
        return .slice (first.toList ++ second ++ third)
      else
        match first with
        | some e => return e
        | none => refuse

/-- A bound of a stretch, if there is one. -/
def bound (steps : Nat) : Reading (List Expr) := do
  match steps with
  | 0 => refuse
  | steps + 1 =>
    if (← atSign ":") || (← atSign "]") || (← atSign ",") then return []
    else return [← expression steps]

/-- The parts of a rule that gives items. -/
def rule (steps : Nat) : Reading (List Expr) := do
  match steps with
  | 0 => refuse
  | steps + 1 =>
    let _ ← takeWord "async"
    expectWord "for"
    let target ← targets steps
    expectTarget target
    expectWord "in"
    let source ← disjunction steps
    let rest ← ruleFrom steps
    return target :: source :: rest

/-- The conditions of a rule, and further rules. -/
def ruleFrom (steps : Nat) : Reading (List Expr) := do
  match steps with
  | 0 => refuse
  | steps + 1 =>
    if ← takeWord "if" then
      let condition ← disjunction steps
      return condition :: (← ruleFrom steps)
    else if ← (return (← atWord "for") || (← atWord "async")) then rule steps
    else return []

/-- Targets with commas between them, up to the word that follows them. -/
def targets (steps : Nat) : Reading Expr := do
  match steps with
  | 0 => refuse
  | steps + 1 =>
    let a ← target steps
    if ← atSign "," then return .display .tuple (a :: (← moreTargets steps))
    else return a

/-- Further targets. -/
def moreTargets (steps : Nat) : Reading (List Expr) := do
  match steps with
  | 0 => refuse
  | steps + 1 =>
    if ← takeSign "," then
      if endsRow (← peek) then return []
      else
        let a ← target steps
        return a :: (← moreTargets steps)
    else return []

/-- One target. -/
def target (steps : Nat) : Reading Expr := do
  match steps with
  | 0 => refuse
  | steps + 1 =>
    if ← takeSign "*" then return .starred (← operation steps 1) else operation steps 1

/-- An expression that may stand for several items. -/
def starExpression (steps : Nat) : Reading Expr := do
  match steps with
  | 0 => refuse
  | steps + 1 =>
    if ← takeSign "*" then return .starred (← operation steps 1) else expression steps

/-- Expressions with commas between them: one, or a tuple. -/
def starExpressions (steps : Nat) : Reading Expr := do
  match steps with
  | 0 => refuse
  | steps + 1 =>
    let a ← starExpression steps
    if ← atSign "," then return .display .tuple (a :: (← moreExpressions steps))
    else return a

/-- Further expressions of a tuple. -/
def moreExpressions (steps : Nat) : Reading (List Expr) := do
  match steps with
  | 0 => refuse
  | steps + 1 =>
    if ← takeSign "," then
      if endsRow (← peek) then return []
      else
        let a ← starExpression steps
        return a :: (← moreExpressions steps)
    else return []

/-- What a function gives back while it goes on. -/
def yielding (steps : Nat) : Reading Expr := do
  match steps with
  | 0 => refuse
  | steps + 1 =>
    expectWord "yield"
    if ← takeWord "from" then return .yielding (some (← expression steps))
    else if endsRow (← peek) then return .yielding none
    else return .yielding (some (← starExpressions steps))

/-- An item of a collection that is written out. -/
def item (steps : Nat) : Reading Expr := do
  match steps with
  | 0 => refuse
  | steps + 1 =>
    if ← takeSign "*" then return .starred (← operation steps 1) else namedExpression steps

/-- Items up to the closing bracket. -/
def items (steps : Nat) (stop : String) : Reading (List Expr) := do
  match steps with
  | 0 => refuse
  | steps + 1 =>
    if ← takeSign stop then return []
    else
      let a ← item steps
      if ← takeSign "," then return a :: (← items steps stop)
      else
        close steps stop a
        return [a]

/-- What stands in round brackets. -/
def group (steps : Nat) : Reading Expr := do
  match steps with
  | 0 => refuse
  | steps + 1 =>
    if ← takeSign ")" then return .display .tuple []
    else if ← atWord "yield" then
      let e ← yielding steps
      close steps ")" e
      return e
    else
      let a ← item steps
      if ← takeSign "," then return .display .tuple (a :: (← items steps ")"))
      else if ← (return (← atWord "for") || (← atWord "async")) then
        checkSingle a
        let parts ← rule steps
        expectSign ")"
        return .comprehension .generator a parts
      else
        match a with
        | .starred _ => fail (.form "cannot use starred expression here")
        | _ => pure ()
        close steps ")" a
        return a

/-- A list. -/
def listDisplay (steps : Nat) : Reading Expr := do
  match steps with
  | 0 => refuse
  | steps + 1 =>
    if ← takeSign "]" then return .display .list []
    else
      let a ← item steps
      if ← takeSign "," then return .display .list (a :: (← items steps "]"))
      else if ← (return (← atWord "for") || (← atWord "async")) then
        checkSingle a
        let parts ← rule steps
        expectSign "]"
        return .comprehension .list a parts
      else
        close steps "]" a
        return .display .list [a]

/-- An entry of a dictionary. -/
def entry (steps : Nat) : Reading Expr := do
  match steps with
  | 0 => refuse
  | steps + 1 =>
    if ← takeSign "**" then return .spread (← operation steps 1)
    else
      let key ← expression steps
      if !(← atSign ":") then
        match ← peek with
        | .sign "," | .sign "\x7d" => fail (.form "':' expected after dictionary key")
        | _ => refuse
      advance
      if (← atSign "\x7d") || (← atSign ",") then
        fail (.form "expression expected after dictionary key and ':'")
      if ← atSign "*" then
        fail (.form "cannot use a starred expression in a dictionary value")
      return .entry key (← expression steps)

/-- Entries up to the closing bracket. -/
def entries (steps : Nat) : Reading (List Expr) := do
  match steps with
  | 0 => refuse
  | steps + 1 =>
    if ← takeSign "\x7d" then return []
    else
      let a ← entry steps
      if ← takeSign "," then return a :: (← entries steps)
      else
        close steps "\x7d" a
        return [a]

/-- A dictionary or a set. -/
def braces (steps : Nat) : Reading Expr := do
  match steps with
  | 0 => refuse
  | steps + 1 =>
    if ← takeSign "\x7d" then return .display .dictionary []
    else if ← atSign "**" then return .display .dictionary (← entries steps)
    else
      let a ← item steps
      let isKey := match a with
        | .starred _ | .binding _ _ => false
        | _ => true
      if isKey && (← takeSign ":") then
        if ← atSign "*" then
          fail (.form "cannot use a starred expression in a dictionary value")
        if (← atSign "\x7d") || (← atSign ",") then
          fail (.form "expression expected after dictionary key and ':'")
        let v ← expression steps
        if ← (return (← atWord "for") || (← atWord "async")) then
          let parts ← rule steps
          expectSign "\x7d"
          return .comprehension .dictionary (.entry a v) parts
        else if ← takeSign "," then
          return .display .dictionary (.entry a v :: (← entries steps))
        else
          close steps "\x7d" v
          return .display .dictionary [.entry a v]
      else if ← (return (← atWord "for") || (← atWord "async")) then
        checkSingle a
        let parts ← rule steps
        expectSign "\x7d"
        return .comprehension .set a parts
      else if ← takeSign "," then return .display .set (a :: (← items steps "\x7d"))
      else
        close steps "\x7d" a
        return .display .set [a]

/-- The parts of a text with values in it, and the rest behind a format.  The
depth counts the formats around. -/
def template (steps : Nat) (raw : Bool) (depth : Nat) (body : List Char) :
    Except SyntaxFault (List Expr × List Char) := do
  match steps with
  | 0 => .error .invalid
  | steps + 1 =>
    let (text, after) ← templateText (0 < depth) body
    let literal ← literalPart raw text
    match after with
    | '\x7b' :: rest =>
      let (parts, after) ← templateValue steps raw depth rest
      let (more, left) ← template steps raw depth after
      return (literal ++ parts ++ more, left)
    | after => return (literal, after)

/-- A value in a text behind its opening bracket, and the rest. -/
def templateValue (steps : Nat) (raw : Bool) (depth : Nat) (cs : List Char) :
    Except SyntaxFault (List Expr × List Char) := do
  match steps with
  | 0 => .error .invalid
  | steps + 1 =>
    if 2 ≤ depth then throw (templateFault "expressions nested too deeply")
    let (inner, after) ← valueText none [] cs
    if inner.all Token.isGap then
      throw (templateFault (match after with
        | '!' :: _ => "expression required before '!'"
        | ':' :: _ => "expression required before ':'"
        | '=' :: _ => "expression required before '='"
        | _ => "empty expression not allowed"))
    let lexemes := Token.scan (Token.octetsOf ('(' :: inner ++ [')']))
    let e ← match StateT.run (group steps) (lexemes.drop 1) with
      | .ok (e, ⟨.newline, _⟩ :: _) => pure e
      | .ok (_, rest) => throw (templateFault (behind lexemes ⟨.invalid, lineOf rest⟩).message)
      | .error r => throw (templateFault (behind lexemes r).message)
    let (shown, after) := match after with
      | '=' :: rest =>
        let gap := rest.takeWhile Token.isGap
        (some (inner ++ '=' :: gap), rest.drop gap.length)
      | after => (none, after)
    let (conversion, after) ← conversionOf after
    let (format, after) ← match after with
      | ':' :: rest =>
        let (parts, after) ← template steps raw (depth + 1) rest
        pure (some (Expr.template parts), after)
      | after => pure (none, after)
    let label ← match shown with
      | some text => literalPart true text
      | none => pure []
    let conversion :=
      if conversion.isNone && shown.isSome && format.isNone then some 'r' else conversion
    match after with
    | '\x7d' :: rest => return (label ++ [.formatted e conversion format], rest)
    | _ => throw (templateFault "expecting '\x7d'")

/-- The value of texts in a row, some of which may have values in them. -/
def textParts (steps : Nat) (parts : List TextLiteral) : Except SyntaxFault (List Expr) := do
  match steps, parts with
  | 0, _ | _, [] => return []
  | steps + 1, t :: rest =>
    let first ← if t.template then (·.1) <$> template steps t.raw 0 t.body
      else literalPart t.raw t.body
    return first ++ (← textParts steps rest)

/-- An expression without operators. -/
def atom (steps : Nat) : Reading Expr := do
  match steps with
  | 0 => refuse
  | steps + 1 =>
    match ← peek with
    | .name n =>
      advance
      return .name n
    | .number c =>
      advance
      return .constant c
    | .text _ =>
      let parts ← texts (steps + 1)
      if parts.any TextLiteral.octets && !parts.all TextLiteral.octets then
        fail (.form "cannot mix bytes and nonbytes literals")
      if parts.any TextLiteral.template then
        return .template (← ofExcept (textParts steps parts))
      else ofExcept (joinTexts parts)
    | .word "None" =>
      advance
      return .constant ⟨.none, rfl⟩
    | .word "True" =>
      advance
      return .constant ⟨.bool true, rfl⟩
    | .word "False" =>
      advance
      return .constant ⟨.bool false, rfl⟩
    | .sign "..." =>
      advance
      return .constant ⟨.object "ellipsis", rfl⟩
    | .sign "(" =>
      advance
      group steps
    | .sign "[" =>
      advance
      listDisplay steps
    | .sign "\x7b" =>
      advance
      braces steps
    | _ => refuse

end

/-! ## Running -/

/-- The result of a reader for some tokens.  Each token takes readers of all
forms at most once more inside of each other. -/
def run {α : Type} (reader : Nat → Reading α) (lexemes : List Lexeme) :
    Except Refusal (α × List Lexeme) :=
  StateT.run (reader (32 * (lexemes.length + 1))) lexemes

end Reading

end EmbeddedPython
