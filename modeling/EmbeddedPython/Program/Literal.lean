import EmbeddedPython.Program.Token

/-!
# The values of texts

What a text between quotes stands for.  `TextLiteral.decode` resolves the
escapes of a text and `TextLiteral.octetsOf` those of an octet string; without
escapes a text is UTF-8 as it stands.

Escapes may write halves of surrogate pairs, so the characters of a text are
numbers up to its end.
-/

namespace EmbeddedPython.TextLiteral

/-! ## Escapes that texts and octet strings share -/

/-- The number of a short escape. -/
def shortEscape? (c : Char) : Option Nat :=
  [('\\', 0x5C), ('\x27', 0x27), ('\x22', 0x22), ('a', 7), ('b', 8), ('f', 12), ('n', 10),
    ('r', 13), ('t', 9), ('v', 11)].lookup c

/-- An octal digit. -/
def isOctal (c : Char) : Bool :=
  '0' ≤ c && c ≤ '7'

/-- The octal digits that characters start with, at most three. -/
def octalDigits (cs : List Char) : List Char :=
  (cs.take 3).takeWhile isOctal

/-- A hexadecimal digit. -/
def isHex (c : Char) : Bool :=
  (Numeral.hexValue? c).isSome

/-- The number that hexadecimal digits write. -/
def hexNumber (digits : List Char) : Nat :=
  digits.foldl (fun n c => n * 16 + (Numeral.hexValue? c).getD 0) 0

/-! ## Texts -/

/-- The fault of an escape at a position that ends before another one. -/
def escapeFault (first stop : Nat) (reason : String) : SyntaxFault :=
  .encoding ⟨"unicodeescape", 0x5C, first, stop - 1, reason⟩

/-- The number of an escape with exactly `count` digits behind its mark, and
the rest.  The escape is at a position. -/
def numbered (position count : Nat) (reason : String) (cs : List Char) :
    Except SyntaxFault (Nat × List Char) :=
  let digits := (cs.take count).takeWhile isHex
  if digits.length < count then
    .error (escapeFault position (position + 2 + digits.length) ("truncated " ++ reason ++ " escape"))
  else if 0x110000 ≤ hexNumber digits then
    .error (escapeFault position (position + 2 + count) "illegal Unicode character")
  else .ok (hexNumber digits, cs.drop count)

/-- The numbers of the characters of a text with escapes.  The position is
counted as if characters beyond the first 128 were written by escapes of ten
characters. -/
def resolve (steps position : Nat) (cs : List Char) : Except SyntaxFault (List Nat) :=
  match steps, cs with
  | 0, _ | _, [] => .ok []
  | steps + 1, '\\' :: c :: rest =>
    if c = '\n' then resolve steps (position + 2) rest
    else
      match shortEscape? c with
      | some n => return n :: (← resolve steps (position + 2) rest)
      | none =>
        if isOctal c then do
          let digits := octalDigits (c :: rest)
          let more ← resolve steps (position + 1 + digits.length) (rest.drop (digits.length - 1))
          return Token.valueInBase 8 digits :: more
        else if c = 'x' then do
          let (n, after) ← numbered position 2 "\\xXX" rest
          return n :: (← resolve steps (position + 4) after)
        else if c = 'u' then do
          let (n, after) ← numbered position 4 "\\uXXXX" rest
          return n :: (← resolve steps (position + 6) after)
        else if c = 'U' then do
          let (n, after) ← numbered position 8 "\\UXXXXXXXX" rest
          return n :: (← resolve steps (position + 10) after)
        else if c = 'N' then
          .error (escapeFault position (position + 2) "malformed \\N character escape")
        else if 0x80 ≤ c.toNat then
          return 0x5C :: (← resolve steps (position + 6) (c :: rest))
        else return 0x5C :: c.toNat :: (← resolve steps (position + 2) rest)
  | steps + 1, c :: rest =>
    if c.toNat < 0x80 then return c.toNat :: (← resolve steps (position + 1) rest)
    else do
      let foreign := (c :: rest).takeWhile fun c => 0x80 ≤ c.toNat
      match Octets.decode (Token.octetsOf foreign) with
      | .error f => throw (.encoding f)
      | .ok s =>
        let more ← resolve steps (position + 10 * s.length) (rest.drop (foreign.length - 1))
        return s.toList.map Char.toNat ++ more

/-- The value of a text by the numbers of its characters. -/
def valueOf (numbers : List Nat) : Constant :=
  if numbers.all Nat.isValidChar then ⟨.str (String.ofList (numbers.map Char.ofNat)), rfl⟩
  else ⟨.brokenStr, rfl⟩

/-- The numbers of the characters of a text. -/
def decode (raw : Bool) (body : List Char) : Except SyntaxFault (List Nat) :=
  if raw || !body.contains '\\' then
    match Octets.decode (Token.octetsOf body) with
    | .error f => .error (.encoding f)
    | .ok s => .ok (s.toList.map Char.toNat)
  else resolve (body.length + 1) 0 body

/-! ## Octet strings -/

/-- The octets of an octet string with escapes. -/
def resolveOctets (steps position : Nat) (cs : List Char) : Except SyntaxFault (List Nat) :=
  match steps, cs with
  | 0, _ | _, [] => .ok []
  | steps + 1, '\\' :: c :: rest =>
    if c = '\n' then resolveOctets steps (position + 2) rest
    else
      match shortEscape? c with
      | some n => return n :: (← resolveOctets steps (position + 2) rest)
      | none =>
        if isOctal c then do
          let digits := octalDigits (c :: rest)
          let more ← resolveOctets steps (position + 1 + digits.length)
            (rest.drop (digits.length - 1))
          return Token.valueInBase 8 digits % 256 :: more
        else if c = 'x' then
          if ((rest.take 2).takeWhile isHex).length = 2 then
            return hexNumber (rest.take 2) :: (← resolveOctets steps (position + 4) (rest.drop 2))
          else
            .error (.form ("(value error) invalid \\x escape at position "
              ++ Numeral.text position))
        else return 0x5C :: c.toNat :: (← resolveOctets steps (position + 2) rest)
  | steps + 1, c :: rest => return c.toNat :: (← resolveOctets steps (position + 1) rest)

/-- The octets of an octet string. -/
def octetsOf (raw : Bool) (body : List Char) : Except SyntaxFault Octets :=
  if body.any fun c => 0x80 ≤ c.toNat then
    .error (.form "bytes can only contain ASCII literal characters")
  else if raw then .ok (Token.octetsOf body)
  else (resolveOctets (body.length + 1) 0 body).map fun numbers => numbers.map Nat.toUInt8

end EmbeddedPython.TextLiteral
