import EmbeddedPython.Shell.Reader
import EmbeddedPython.Shell.State

/-!
# Arithmetic of the shell

A `Sum` is an arithmetic expression over whole numbers of 64 bits, which wrap
around.  `Sum.read` reads one off the text between `$((` and `))`, and
`Sum.evaluate` computes it.  A variable stands for the number in its value, and
an expression can set it.
-/

namespace EmbeddedPython.Shell

/-- An arithmetic expression. -/
inductive Sum where
  | number (n : Int64)
  | named (name : String)
  /-- An operator in front of an expression. -/
  | marked (operator : String) (e : Sum)
  | combined (operator : String) (a b : Sum)
  | choice (condition yes no : Sum)
  /-- Sets a variable, to the value itself or to what an operator makes of the
  old value and it. -/
  | assigned (name : String) (operator : String) (e : Sum)
deriving Repr, Inhabited

namespace Sum

/-- A token of an expression. -/
inductive Token where
  | number (n : Int64)
  | named (name : String)
  | operator (text : String)
  /-- A character that no expression holds. -/
  | stray
deriving Repr, DecidableEq

/-- The operators, longer ones in front of their beginnings. -/
def operators : List String :=
  ["<<=", ">>=", "<<", ">>", "<=", ">=", "==", "!=", "&&", "||", "&=", "|=", "^=", "*=", "/=",
    "%=", "+=", "-=", "<", ">", "&", "|", "^", "*", "/", "%", "+", "-", "=", "!", "~", "(", ")",
    "?", ":"]

/-- The digits of a number in some base at the front. -/
def digitsOf (base : Nat) (cs : List Char) : List Nat :=
  (cs.map Numeral.hexValue?).takeWhile (fun d => d.any (· < base)) |>.filterMap id

/-- The value of digits, which goes up to the largest number. -/
def valueIn (base : Nat) (digits : List Nat) : Nat :=
  min (digits.foldl (fun n d => base * n + d) 0) Int64.maxValue.toNatClampNeg

/-- The number at the front, with the characters that it takes: a zero in
front makes it octal, and an `x` behind that one hexadecimal. -/
def numeral (cs : List Char) : Nat × Nat :=
  match cs with
  | '0' :: x :: rest =>
    let digits := digitsOf 16 rest
    if (x = 'x' || x = 'X') && !digits.isEmpty then (valueIn 16 digits, digits.length + 2)
    else
      let digits := digitsOf 8 cs
      (valueIn 8 digits, digits.length)
  | cs =>
    let digits := digitsOf 10 cs
    (valueIn 10 digits, digits.length)

/-- A blank. -/
def isBlank (c : Char) : Bool :=
  c == ' ' || (9 ≤ c.toNat && c.toNat ≤ 13)

/-- The tokens of characters.  Every step takes one of them. -/
def tokensIn : Nat → List Char → List Token
  | 0, _ => []
  | _, [] => []
  | steps + 1, c :: rest =>
    if isBlank c then tokensIn steps rest
    else if Numeral.isDigit c then
      let (n, length) := numeral (c :: rest)
      .number (Int64.ofNat n) :: tokensIn steps ((c :: rest).drop length)
    else if Reader.isNameStart c then
      let name := (c :: rest).takeWhile Reader.isNamePart
      .named (String.ofList name) :: tokensIn steps ((c :: rest).drop name.length)
    else
      match operators.find? fun o => o.toList.isPrefixOf (c :: rest) with
      | some o => .operator o :: tokensIn steps ((c :: rest).drop o.length)
      | none => .stray :: tokensIn steps rest

/-- The operators between expressions, those that bind tightest first. -/
def levels : List (List String) :=
  [["*", "/", "%"], ["+", "-"], ["<<", ">>"], ["<", "<=", ">", ">="], ["==", "!="], ["&"], ["^"],
    ["|"], ["&&"], ["||"]]

/-- The operators that set a variable, with what they combine. -/
def setters : List (String × String) :=
  [("=", ""), ("*=", "*"), ("/=", "/"), ("%=", "%"), ("+=", "+"), ("-=", "-"), ("<<=", "<<"),
    (">>=", ">>"), ("&=", "&"), ("^=", "^"), ("|=", "|")]

/-- How tightly an operator binds. -/
def level? (operator : String) : Option Nat :=
  levels.findIdx? (·.contains operator)

mutual

/-- An expression that may set a variable or choose. -/
def expression : Nat → List Token → Except String (Sum × List Token)
  | 0, _ => .error "expecting primary"
  | steps + 1, tokens => do
    match tokens with
    | .named name :: .operator o :: rest =>
      match setters.lookup o with
      | some operator =>
        let (e, rest) ← expression steps rest
        return (.assigned name operator e, rest)
      | none => conditional steps tokens
    | tokens => conditional steps tokens

/-- An expression that may choose. -/
def conditional : Nat → List Token → Except String (Sum × List Token)
  | 0, _ => .error "expecting primary"
  | steps + 1, tokens => do
    let (condition, rest) ← operand steps tokens
    let (condition, rest) ← operation steps levels.length condition rest
    match rest with
    | .operator "?" :: rest =>
      let (yes, rest) ← expression steps rest
      match rest with
      | .operator ":" :: rest =>
        let (no, rest) ← conditional steps rest
        return (.choice condition yes no, rest)
      | _ => .error "expecting ':'"
    | rest => return (condition, rest)

/-- The operators behind an expression that bind tighter than a level. -/
def operation : Nat → Nat → Sum → List Token → Except String (Sum × List Token)
  | 0, _, _, _ => .error "expecting primary"
  | steps + 1, bound, a, tokens => do
    match tokens with
    | .operator o :: rest =>
      match level? o with
      | some level =>
        if level < bound then
          let (b, rest) ← operand steps rest
          let (b, rest) ← operation steps level b rest
          operation steps bound (.combined o a b) rest
        else return (a, tokens)
      | none => return (a, tokens)
    | tokens => return (a, tokens)

/-- An expression without operators between its parts. -/
def operand : Nat → List Token → Except String (Sum × List Token)
  | 0, _ => .error "expecting primary"
  | steps + 1, tokens => do
    match tokens with
    | .number n :: rest => return (.number n, rest)
    | .named name :: rest => return (.named name, rest)
    | .operator "(" :: rest =>
      let (e, rest) ← expression steps rest
      match rest with
      | .operator ")" :: rest => return (e, rest)
      | _ => .error "expecting ')'"
    | .operator o :: rest =>
      if ["+", "-", "!", "~"].contains o then
        let (e, rest) ← operand steps rest
        return (.marked o e, rest)
      else .error "expecting primary"
    | _ => .error "expecting primary"

end

/-- The expression that a text is. -/
def read (cs : List Char) : Except String Sum := do
  let tokens := tokensIn cs.length cs
  let (e, rest) ← expression (4 * tokens.length + 4) tokens
  if rest.isEmpty then return e else .error "expecting EOF"

/-- The number of a truth. -/
def ofTruth (b : Bool) : Int64 :=
  if b then 1 else 0

/-- What an operator makes of two numbers.  Nothing is divided by zero. -/
def combine? (operator : String) (a b : Int64) : Option Int64 :=
  match operator with
  | "*" => some (a * b)
  | "/" => if b = 0 then none else some (a / b)
  | "%" => if b = 0 then none else some (a % b)
  | "+" => some (a + b)
  | "-" => some (a - b)
  | "<<" => some (a <<< b)
  | ">>" => some (a >>> b)
  | "<" => some (ofTruth (a < b))
  | "<=" => some (ofTruth (a ≤ b))
  | ">" => some (ofTruth (b < a))
  | ">=" => some (ofTruth (b ≤ a))
  | "==" => some (ofTruth (a == b))
  | "!=" => some (ofTruth (a != b))
  | "&" => some (a &&& b)
  | "^" => some (a ^^^ b)
  | "|" => some (a ||| b)
  | _ => some b

/-- What an operator makes of a number behind it. -/
def mark (operator : String) (a : Int64) : Int64 :=
  match operator with
  | "-" => -a
  | "!" => ofTruth (a == 0)
  | "~" => ~~~a
  | _ => a

/-- The whole number that a text is as a whole, in any base that it tells and
with a sign. -/
def integer? (anyBase : Bool) (cs : List Char) : Option Int64 :=
  let trimmed := cs.dropWhile isBlank
  let (negative, digits) := match trimmed with
    | '-' :: rest => (true, rest)
    | '+' :: rest => (false, rest)
    | rest => (false, rest)
  let (n, length) :=
    if anyBase then numeral digits
    else
      let ds := digitsOf 10 digits
      (valueIn 10 ds, ds.length)
  let overflows := Int64.maxValue.toNatClampNeg < (digitsOf 10 digits).foldl (10 * · + ·) 0
  if !(digits.drop length).all isBlank || overflows then none
  else if length = 0 && !(anyBase && trimmed.isEmpty) then none
  else some (if negative then -(Int64.ofNat n) else Int64.ofNat n)

/-- The value of an expression.  `scene` shows the whole of it in complaints. -/
def evaluate (scene : String) : Sum → Act Int64
  | .number n => return n
  | .named name => valueOfName name
  | .marked operator e => do return mark operator (← evaluate scene e)
  | .combined "&&" a b => do
    if (← evaluate scene a) = 0 then return 0
    else return ofTruth ((← evaluate scene b) != 0)
  | .combined "||" a b => do
    if (← evaluate scene a) != 0 then return 1
    else return ofTruth ((← evaluate scene b) != 0)
  | .combined operator a b => do
    let a ← evaluate scene a
    combined operator a (← evaluate scene b)
  | .choice condition yes no => do
    if (← evaluate scene condition) != 0 then evaluate scene yes else evaluate scene no
  | .assigned name operator e => do
    let value ← evaluate scene e
    let value ← if operator.isEmpty then pure value
      else combined operator (← valueOfName name) value
    let old ← Act.variableNamed? name
    if old.any Variable.fixed then Act.refuse (name ++ ": is read only")
    Act.putVariable name
      ⟨some (Numeral.signed value.toInt).toList, old.any Variable.exported, false⟩
    return value
where
  /-- The number in the value of a variable. -/
  valueOfName (name : String) : Act Int64 := do
    let cs ← Act.valueOf name
    match integer? true cs with
    | some n => return n
    | none => Act.refuse ("Illegal number: " ++ String.ofList cs)
  /-- What an operator makes of two numbers. -/
  combined (operator : String) (a b : Int64) : Act Int64 := do
    match combine? operator a b with
    | some n => return n
    | none => Act.refuse ("arithmetic expression: division by zero: \x22" ++ scene ++ "\x22")

/-- The value of the expression that a text is. -/
def valueOf (cs : List Char) : Act Int64 := do
  match read cs with
  | .ok e => evaluate (String.ofList cs) e
  | .error text =>
    Act.refuse ("arithmetic expression: " ++ text ++ ": \x22" ++ String.ofList cs ++ "\x22")

end Sum

end EmbeddedPython.Shell
