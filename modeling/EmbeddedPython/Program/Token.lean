import EmbeddedPython.Double
import EmbeddedPython.Program.Constant
import EmbeddedPython.Program.Fault
import EmbeddedPython.Text.Identifier
import EmbeddedPython.Text.Normal
import EmbeddedPython.Text.Printable

/-!
# Tokens of programs

`Token.scan` cuts a source into tokens.  A source is read octet by octet, each
octet as the character of its number: what is beyond the first 128 can only
stand in names, in texts and in comments, and is decoded there, if at all.

* Blanks at the start of a line become `indent` and `dedent` tokens, wherever
  the indentation changes.  Lines with nothing but a comment do not count, and
  neither do line ends between brackets.
* A fault ends the tokens: the token `fault` stands for it.  A `late` one is only
  found by one who reads that far, all others go before whatever is wrong with
  the tokens in front of them.
-/

namespace EmbeddedPython

/-- A text as a program writes it. -/
structure TextLiteral where
  /-- Backslashes stand for themselves. -/
  raw : Bool
  /-- The text is an octet string. -/
  octets : Bool
  /-- The text has values in it. -/
  template : Bool
  body : List Char
deriving Repr, DecidableEq, Inhabited

/-- A token. -/
inductive Token where
  | name (s : String)
  /-- A name that the language keeps for itself. -/
  | word (s : String)
  | number (c : Constant)
  | text (t : TextLiteral)
  | sign (s : String)
  | newline
  | indent
  | dedent
  | ending
  | fault (late : Bool) (f : SyntaxFault)
deriving Repr, Inhabited

/-- A token and its line.  For a bracket that is never closed, it is the line on
which the bracket was opened. -/
structure Lexeme where
  token : Token
  line : Nat
deriving Repr, Inhabited

namespace Token

/-- The names that the language keeps for itself. -/
def keywords : List String :=
  ["False", "None", "True", "and", "as", "assert", "async", "await", "break", "class",
   "continue", "def", "del", "elif", "else", "except", "finally", "for", "from", "global",
   "if", "import", "in", "is", "lambda", "nonlocal", "not", "or", "pass", "raise", "return",
   "try", "while", "with", "yield"]

/-- The signs of several characters, the longest ones first. -/
def longSigns : List String :=
  ["**=", "//=", ">>=", "<<=", "...", "!=", "%=", "&=", "**", "*=", "+=", "-=", "->", "//",
   "/=", ":=", "<<", "<=", "<>", "==", ">=", ">>", "@=", "^=", "|="]

/-! ## Lines -/

/-- Octets as the characters of their numbers. -/
def characters (octets : Octets) : List Char :=
  octets.map fun b => Char.ofNat b.toNat

/-- The octets that characters stand for. -/
def octetsOf (cs : List Char) : Octets :=
  cs.map fun c => c.toNat.toUInt8

/-- Characters with every line end turned into a line feed. -/
def unifyLines : List Char → List Char
  | [] => []
  | '\r' :: '\n' :: rest => '\n' :: unifyLines rest
  | c :: rest => (if c = '\r' then '\n' else c) :: unifyLines rest

/-- The last line ends, and one more line end follows after a carriage return
and a line feed. -/
def endLines (cs : List Char) : List Char :=
  let lines := unifyLines cs
  if lines.getLast? ≠ some '\n' then lines ++ ['\n']
  else if cs.reverse.take 2 = ['\n', '\r'] then lines ++ ['\n']
  else lines

/-- How many line ends there are. -/
def lineEnds (cs : List Char) : Nat :=
  cs.countP (· == '\n')

/-! ## Names -/

/-- A character that a name may start with, as far as one octet tells. -/
def startsName (c : Char) : Bool :=
  c.isAlpha || c == '_' || 0x80 ≤ c.toNat

/-- A character that a name may hold, as far as one octet tells. -/
def continuesName (c : Char) : Bool :=
  startsName c || Numeral.isDigit c

/-- The fault of the first character that keeps others from being a name. -/
def strayCharacter? (first : Bool) : List Char → Option SyntaxFault
  | [] => none
  | c :: rest =>
    if if first then Text.isIdentifierStart c else Text.isIdentifierPart c then
      strayCharacter? false rest
    else if Text.isPrintableInterpreted c then some (.invalidCharacter c)
    else some (.invisible c)

/-- The token of a name. -/
def ofName (cs : List Char) : Except SyntaxFault Token :=
  if cs.all fun c => c.toNat < 0x80 then
    let s := String.ofList cs
    .ok (if keywords.contains s then .word s else .name s)
  else
    match Octets.decode (octetsOf cs) with
    | .error f => .error (.encoding f)
    | .ok s =>
      match strayCharacter? true s.toList with
      | some f => .error f
      | none => .ok (.name (String.ofList (Text.normalize s.toList)))

/-! ## Numbers -/

/-- The characters behind a number are no part of it: no name starts there,
unless it is a word that may follow a number. -/
def checkNumberEnd (kind : String) (cs : List Char) : Except SyntaxFault Unit :=
  let followers := ["and", "else", "for", "if", "in", "is", "or", "not"]
  if followers.any fun w => w.toList.isPrefixOf cs then .ok ()
  else
    match cs with
    | c :: _ => if c.toNat < 0x80 && continuesName c then .error (.number kind) else .ok ()
    | [] => .ok ()

/-- Digits with single underscores between them, and the rest.  `count` bounds
the groups of digits. -/
def digitGroups (isDigit : Char → Bool) (kind : String) :
    Nat → List Char → Except SyntaxFault (List Char × List Char)
  | 0, cs => .ok ([], cs)
  | count + 1, cs =>
    let digits := cs.takeWhile isDigit
    match cs.dropWhile isDigit with
    | '_' :: rest =>
      match rest with
      | c :: _ =>
        if isDigit c then do
          let (more, after) ← digitGroups isDigit kind count rest
          return (digits ++ more, after)
        else .error (.number kind)
      | [] => .error (.number kind)
    | rest => .ok (digits, rest)

/-- Decimal digits and the rest. -/
def decimalDigits (cs : List Char) : Except SyntaxFault (List Char × List Char) :=
  digitGroups Numeral.isDigit "decimal" (cs.length + 1) cs

/-- The number of digits in a base. -/
def valueInBase (base : Nat) (digits : List Char) : Nat :=
  digits.foldl (fun n c => n * base + (Numeral.hexValue? c).getD 0) 0

/-- A number in another base behind its mark, and the rest.  A digit that is
too large is told apart from other characters. -/
def basedNumber (base : Nat) (kind : String) (cs : List Char) :
    Except SyntaxFault (Token × List Char) := do
  let isDigit (c : Char) : Bool := (Numeral.hexValue? c).any (· < base)
  let cs := match cs with
    | '_' :: rest => rest
    | cs => cs
  match cs with
  | c :: _ =>
    if isDigit c then
      let (digits, after) ← match digitGroups isDigit kind (cs.length + 1) cs with
        | .ok r => pure r
        | .error f => throw (strayDigit? isDigit cs |>.getD f)
      match after with
      | d :: _ =>
        if Numeral.isDigit d && base < 10 then throw (.digit d kind)
        checkNumberEnd kind after
      | [] => pure ()
      return (.number ⟨.int (valueInBase base digits), rfl⟩, after)
    else if Numeral.isDigit c then throw (.digit c kind)
    else throw (.number kind)
  | [] => throw (.number kind)
where
  /-- The fault of a digit that is too large behind an underscore. -/
  strayDigit? (isDigit : Char → Bool) (cs : List Char) : Option SyntaxFault :=
    match cs.dropWhile fun c => isDigit c || c == '_' with
    | d :: _ => if Numeral.isDigit d then some (.digit d kind) else none
    | [] => none

/-- The double that decimal digits and an exponent write. -/
def doubleOf (digits : List Char) (exponent : Int) : Double :=
  let n := Numeral.valueOf digits
  let size : Int := (Numeral.decimal n).length + exponent
  if n = 0 || size < -400 then ⟨0⟩
  else if 400 < size then ⟨(1.0 / 0.0 : Float).toBits⟩
  else if exponent < 0 then ⟨(Float.ofScientific n true exponent.natAbs).toBits⟩
  else ⟨(Float.ofScientific (n * Nat.pow 10 exponent.toNat) false 0).toBits⟩

/-- The end of a number with a fraction or an exponent: an imaginary one has a
mark behind it. -/
def finishReal (digits : List Char) (exponent : Int) (cs : List Char) :
    Except SyntaxFault (Token × List Char) := do
  match cs with
  | c :: rest =>
    if c = 'j' || c = 'J' then
      checkNumberEnd "imaginary" rest
      return (.number ⟨.object "complex", rfl⟩, rest)
    else
      checkNumberEnd "decimal" cs
      return (.number ⟨.float (doubleOf digits exponent), rfl⟩, cs)
  | [] => return (.number ⟨.float (doubleOf digits exponent), rfl⟩, [])

/-- The exponent behind its mark, and the rest: `none` if there is none. -/
def exponentOf (cs : List Char) : Except SyntaxFault (Option (Int × List Char)) := do
  let signed (negative : Bool) (cs : List Char) : Except SyntaxFault (Option (Int × List Char)) := do
    match cs with
    | c :: _ =>
      if Numeral.isDigit c then
        let (digits, after) ← decimalDigits cs
        let n : Int := Numeral.valueOf digits
        return some (if negative then -n else n, after)
      else throw (.number "decimal")
    | [] => throw (.number "decimal")
  match cs with
  | '+' :: rest => signed false rest
  | '-' :: rest => signed true rest
  | c :: _ => if Numeral.isDigit c then signed false cs else return none
  | [] => return none

/-- The longest row of decimal digits that is read as an integer. -/
def longestInteger : Nat := 4300

/-- What is said about a longer one. -/
def tooLong (count : Nat) : SyntaxFault :=
  .form ("Exceeds the limit (4300 digits) for integer string conversion: value has "
    ++ Numeral.text count ++ " digits; use sys.set_int_max_str_digits() to increase the limit"
    ++ " - Consider hexadecimal for huge integer literals to avoid decimal conversion limits.")

/-- A number whose whole part was read, and the rest.  `real` says that a point
was read as well, behind which the exponent counts places. -/
def finishNumber (digits : List Char) (places : Nat) (real : Bool) (cs : List Char) :
    Except SyntaxFault (Token × List Char) := do
  let integer (cs : List Char) : Except SyntaxFault (Token × List Char) := do
    if longestInteger < digits.length then throw (tooLong digits.length)
    return (.number ⟨.int (Numeral.valueOf digits), rfl⟩, cs)
  match cs with
  | c :: rest =>
    if c = 'e' || c = 'E' then
      match ← exponentOf rest with
      | some (e, after) => finishReal digits (e - places) after
      | none =>
        checkNumberEnd "decimal" cs
        if real then finishReal digits (-places) cs else integer cs
    else if real || c = 'j' || c = 'J' then finishReal digits (-places) cs
    else
      checkNumberEnd "decimal" cs
      integer cs
  | [] => if real then finishReal digits (-places) [] else integer []

/-- A number behind its point, and the rest. -/
def fractionOf (whole cs : List Char) : Except SyntaxFault (Token × List Char) := do
  match cs with
  | c :: _ =>
    if Numeral.isDigit c then
      let (digits, after) ← decimalDigits cs
      finishNumber (whole ++ digits) digits.length true after
    else finishNumber whole 0 true cs
  | [] => finishNumber whole 0 true []

/-- A number of which some zero stands in front of other digits is none, unless
it has a fraction or an exponent. -/
def checkZeros (digits cs : List Char) : Except SyntaxFault Unit :=
  let isReal := match cs with
    | c :: _ => ['.', 'e', 'E', 'j', 'J'].contains c
    | [] => false
  match digits with
  | '0' :: more =>
    if isReal || more.all (· == '0') then .ok ()
    else
      .error (.form ("leading zeros in decimal integer literals are not permitted; "
        ++ "use an 0o prefix for octal integers"))
  | _ => .ok ()

/-- The number that characters start with, and the rest. -/
def numberOf (cs : List Char) : Except SyntaxFault (Token × List Char) := do
  match cs with
  | '0' :: 'x' :: rest | '0' :: 'X' :: rest => basedNumber 16 "hexadecimal" rest
  | '0' :: 'o' :: rest | '0' :: 'O' :: rest => basedNumber 8 "octal" rest
  | '0' :: 'b' :: rest | '0' :: 'B' :: rest => basedNumber 2 "binary" rest
  | '.' :: rest => fractionOf [] rest
  | _ =>
    let (digits, after) ← decimalDigits cs
    checkZeros digits after
    match after with
    | '.' :: rest => fractionOf digits rest
    | _ => finishNumber digits 0 false after

/-! ## Texts -/

/-- The characters up to the quotes that end a text, and the rest.  A backslash
keeps the character behind it from ending anything. -/
def textBody (quote : Char) (long : Bool) : List Char → Option (List Char × List Char)
  | [] => none
  | '\\' :: c :: rest => (textBody quote long rest).map fun (body, after) => ('\\' :: c :: body, after)
  | c :: rest =>
    if !long && c = '\n' then none
    else if c ≠ quote then (textBody quote long rest).map fun (body, after) => (c :: body, after)
    else if !long then some ([], rest)
    else
      match rest with
      | d :: e :: after =>
        if d = quote && e = quote then some ([], after)
        else (textBody quote long rest).map fun (body, after) => (c :: body, after)
      | _ => none

/-- The last line that was looked at for the end of a text. -/
def lastLine (long : Bool) (line : Nat) (cs : List Char) : Nat :=
  if long then line + (lineEnds cs - 1)
  else line + shortLines cs
where
  /-- The line ends behind backslashes, up to the first other one. -/
  shortLines : List Char → Nat
    | '\\' :: '\n' :: [] => 0
    | '\\' :: '\n' :: rest => shortLines rest + 1
    | '\\' :: _ :: rest => shortLines rest
    | '\n' :: _ => 0
    | _ :: rest => shortLines rest
    | [] => 0

/-- The flags of a text whose quote follows letters. -/
def literalFlags? (letters : List Char) : Option TextLiteral :=
  let s := String.ofList (letters.map Char.toLower)
  let flags (raw octets template : Bool) : Option TextLiteral := some ⟨raw, octets, template, []⟩
  if s = "" || s = "u" then flags false false false
  else if s = "r" then flags true false false
  else if s = "b" then flags false true false
  else if s = "f" then flags false false true
  else if s = "br" || s = "rb" then flags true true false
  else if s = "fr" || s = "rf" then flags true false true
  else none

/-- The text at a quote, and the rest. -/
def textAt (flags : TextLiteral) (line : Nat) (quote : Char) (cs : List Char) :
    Except SyntaxFault (Token × List Char) :=
  let (long, cs) := match cs with
    | a :: b :: rest => if a = quote && b = quote then (true, rest) else (false, cs)
    | cs => (false, cs)
  match textBody quote long cs with
  | some (body, after) => .ok (.text { flags with body }, after)
  | none => .error (.unterminated long (lastLine long line cs))

/-- The letters in front of a quote that make up the start of a text. -/
def textStart? (cs : List Char) : Option (TextLiteral × Char × List Char) :=
  let letters := cs.takeWhile Char.isAlpha
  match cs.drop letters.length with
  | q :: rest =>
    if (q = '\x22' || q = '\x27') && letters.length ≤ 2 then
      (literalFlags? letters).map fun flags => (flags, q, rest)
    else none
  | [] => none

/-! ## Indentation -/

/-- How far a line is indented, with tabs that reach to the next eighth column
and with tabs that count as one. -/
structure Margin where
  column : Nat
  narrow : Nat
deriving Repr, DecidableEq

/-- A bracket that was opened, and its line. -/
structure Opening where
  bracket : Char
  line : Nat
deriving Repr, DecidableEq

/-- What a scan knows: the line, the brackets that are open and the margins
around, the innermost ones first. -/
structure Scan where
  line : Nat
  openings : List Opening
  margins : List Margin
deriving Repr

/-- The most brackets and margins inside of each other. -/
def deepestBracket : Nat := 200

@[inherit_doc deepestBracket]
def deepestMargin : Nat := 99

/-- The margin of a line, the rest of the line, and how many lines were joined
on the way.  `kept` is the column of the first backslash. -/
def marginOf (m : Margin) (kept joined : Nat) :
    List Char → Except SyntaxFault (Margin × Nat × List Char)
  | ' ' :: rest => marginOf ⟨m.column + 1, m.narrow + 1⟩ kept joined rest
  | '\t' :: rest => marginOf ⟨(m.column / 8 + 1) * 8, m.narrow + 1⟩ kept joined rest
  | '\x0c' :: rest => marginOf ⟨0, 0⟩ kept joined rest
  | '\\' :: '\n' :: rest =>
    if rest.isEmpty then .error .unexpectedEnd
    else marginOf m (if kept = 0 then m.column else kept) (joined + 1) rest
  | '\\' :: _ => .error (.form "unexpected character after line continuation character")
  | cs => .ok (if kept = 0 then (m, joined, cs) else (⟨kept, kept⟩, joined, cs))

/-- The margin of a scan. -/
def Scan.margin (s : Scan) : Margin :=
  s.margins.headD ⟨0, 0⟩

/-- The scan and the tokens where a line starts at a margin. -/
def Scan.align (s : Scan) (m : Margin) : Except SyntaxFault (Scan × List Token) :=
  if m.column = s.margin.column then
    if m.narrow = s.margin.narrow then .ok (s, []) else .error .mixedIndent
  else if s.margin.column < m.column then
    if deepestMargin ≤ s.margins.length then .error .tooManyIndents
    else if m.narrow ≤ s.margin.narrow then .error .mixedIndent
    else .ok ({ s with margins := m :: s.margins }, [.indent])
  else
    let left := s.margins.dropWhile fun outer => m.column < outer.column
    let outer := left.headD ⟨0, 0⟩
    if m.column ≠ outer.column then .error .unaligned
    else if m.narrow ≠ outer.narrow then .error .mixedIndent
    else
      .ok ({ s with margins := left },
        List.replicate (s.margins.length - left.length) .dedent)

/-! ## Brackets and other signs -/

/-- The bracket that closes another one. -/
def closing (c : Char) : Char :=
  if c = '(' then ')' else if c = '[' then ']' else '\x7d'

/-- The bracket that another one closes. -/
def opening (c : Char) : Char :=
  if c = ')' then '(' else if c = ']' then '[' else '\x7b'

/-- The scan behind a sign of one character. -/
def Scan.pass (s : Scan) (c : Char) : Except SyntaxFault Scan :=
  if c = '(' || c = '[' || c = '\x7b' then
    if deepestBracket ≤ s.openings.length then .error (.form "too many nested parentheses")
    else .ok { s with openings := ⟨c, s.line⟩ :: s.openings }
  else if c = ')' || c = ']' || c = '\x7d' then
    match s.openings with
    | [] => .error (.unmatched c)
    | opening :: outer =>
      if closing opening.bracket = c then .ok { s with openings := outer }
      else
        .error (.mismatched c opening.bracket
          (if opening.line = s.line then none else some opening.line))
  else .ok s

/-- The sign that characters start with, and the rest. -/
def signOf (c : Char) (rest : List Char) : String × List Char :=
  match longSigns.find? fun s => s.toList.isPrefixOf (c :: rest) with
  | some s => (s, rest.drop (s.length - 1))
  | none => (String.ofList [c], rest)

/-! ## Scanning -/

/-- A blank inside of a line. -/
def isGap (c : Char) : Bool :=
  c == ' ' || c == '\t' || c == '\x0c'

/-- The token that characters start with, and the rest.  The characters start
with none of a blank, a comment, a line end and a backslash. -/
def next (s : Scan) (c : Char) (rest : List Char) :
    Except SyntaxFault (Token × Scan × List Char) := do
  match textStart? (c :: rest) with
  | some (flags, quote, body) =>
    let (token, after) ← textAt flags s.line quote body
    let taken := (c :: rest).length - after.length
    return (token, { s with line := s.line + lineEnds ((c :: rest).take taken) }, after)
  | none =>
    if startsName c then
      let more := rest.takeWhile continuesName
      return (← ofName (c :: more), s, rest.drop more.length)
    else if Numeral.isDigit c || (c = '.' && (rest.head?.any Numeral.isDigit)) then
      let (token, after) ← numberOf (c :: rest)
      return (token, s, after)
    else if c.toNat < 0x20 || c.toNat = 0x7F then throw (.invisible c)
    else
      let (taken, after) := signOf c rest
      return (.sign taken, ← if taken.length = 1 then s.pass c else pure s, after)

/-- The tokens at the end of a source. -/
def finish (s : Scan) : List Lexeme :=
  match s.openings with
  | opening :: _ => [⟨.fault true (.unclosed opening.bracket), opening.line⟩]
  | [] => List.replicate s.margins.length ⟨.dedent, s.line⟩ ++ [⟨.ending, s.line⟩]

/-- A fault that is only found by one who reads that far. -/
def stop (s : Scan) (f : SyntaxFault) : List Lexeme :=
  match f, s.openings with
  | .unexpectedEnd, opening :: _ => [⟨.fault true (.unclosed opening.bracket), opening.line⟩]
  | f, _ => [⟨.fault true f, s.line⟩]

mutual

/-- The tokens from the start of a line on, in so many steps. -/
def scanLine (steps : Nat) (s : Scan) (cs : List Char) : List Lexeme :=
  match steps with
  | 0 => finish s
  | steps + 1 =>
    match marginOf ⟨0, 0⟩ 0 0 cs with
    | .error f => stop s f
    | .ok (m, joined, rest) =>
      let s := { s with line := s.line + joined }
      match rest with
      | [] => finish s
      | c :: _ =>
        if c = '#' || c = '\n' then scanRest steps s true rest
        else if !s.openings.isEmpty then scanRest steps s false rest
        else
          match s.align m with
          | .error f => stop s f
          | .ok (s, tokens) => tokens.map (⟨·, s.line⟩) ++ scanRest steps s false rest

/-- The tokens from inside of a line on.  `idle` says that the line has none. -/
def scanRest (steps : Nat) (s : Scan) (idle : Bool) (cs : List Char) : List Lexeme :=
  match steps with
  | 0 => finish s
  | steps + 1 =>
    match cs.dropWhile isGap with
    | [] => finish s
    | '#' :: rest => scanRest steps s idle (rest.dropWhile (· != '\n'))
    | '\n' :: rest =>
      let more := scanLine steps { s with line := s.line + 1 } rest
      if idle || !s.openings.isEmpty then more else ⟨.newline, s.line⟩ :: more
    | '\\' :: '\n' :: rest =>
      if rest.isEmpty then stop s .unexpectedEnd
      else scanRest steps { s with line := s.line + 1 } idle rest
    | '\\' :: _ => stop s (.form "unexpected character after line continuation character")
    | c :: rest =>
      match next s c rest with
      | .error f => [⟨.fault false f, s.line⟩]
      | .ok (token, after, left) => ⟨token, s.line⟩ :: scanRest steps after idle left

end

/-- The tokens of a source. -/
def scan (octets : Octets) : List Lexeme :=
  let cs := endLines (characters octets)
  scanLine (2 * cs.length + 2) ⟨1, [], []⟩ cs

end Token

end EmbeddedPython
