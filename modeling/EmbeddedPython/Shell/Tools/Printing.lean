import EmbeddedPython.Shell.Tools.Fraction

/-!
# Commands that print

`echo` and `printf`.  The shell has both of its own; the programs of these names
read their arguments a little differently.
-/

namespace EmbeddedPython.Shell

/-- A command by its name and its arguments, with its status. -/
abbrev Tool := (name : List Char) → (args : List (List Char)) → Act Nat

namespace Tools

/-! ## Escapes -/

/-- A character that an octal number may hold. -/
def isOctal (c : Char) : Bool :=
  '0' ≤ c && c ≤ '7'

/-- The value of octal digits. -/
def octalValue (digits : List Char) : Nat :=
  digits.foldl (fun n c => 8 * n + Numeral.digitValue c) 0

/-- The character that a letter behind a backslash stands for. -/
def escape? (c : Char) : Option Char :=
  [('a', '\x07'), ('b', '\x08'), ('e', '\x1b'), ('f', '\x0c'), ('n', '\n'), ('r', '\r'),
    ('t', '\t'), ('v', '\x0b'), ('\\', '\\')].lookup c

/-- How escapes are read. -/
structure Escapes where
  /-- A zero in front of an octal number does not count, and `\c` is the end. -/
  ofArguments : Bool
  /-- Hexadecimal numbers are read as well. -/
  hexadecimal : Bool
  /-- An octal number has a zero in front. -/
  zeroInFront : Bool

/-- The octal number behind a backslash, with the characters that it takes. -/
def octal? (e : Escapes) (cs : List Char) : Option (Char × Nat) :=
  let leading := if e.ofArguments && cs.head? == some '0' then 1 else 0
  let digits := ((cs.drop leading).takeWhile isOctal).take 3
  if leading + digits.length = 0 || (e.zeroInFront && leading = 0) then none
  else some (Char.ofNat (octalValue digits % 256), leading + digits.length)

/-- The hexadecimal number behind a backslash, with the characters that it takes. -/
def hexadecimal? (e : Escapes) (cs : List Char) : Option (Char × Nat) :=
  match cs with
  | 'x' :: rest =>
    let digits := (Sum.digitsOf 16 rest).take 2
    if !e.hexadecimal || digits.isEmpty then none
    else some (Char.ofNat (Sum.valueIn 16 digits), digits.length + 1)
  | _ => none

/-- A text with its escapes resolved, and whether it goes on behind it.  Every
step takes a character. -/
def unescapeIn (e : Escapes) : Nat → List Char → List Char × Bool
  | 0, _ => ([], true)
  | _, [] => ([], true)
  | steps + 1, c :: rest =>
    let continued (front after : List Char) : List Char × Bool :=
      let (more, goesOn) := unescapeIn e steps after
      (front ++ more, goesOn)
    if c != '\\' then continued [c] rest
    else if e.ofArguments && rest.head? == some 'c' then ([], false)
    else
      match (octal? e rest).or (hexadecimal? e rest) with
      | some (d, taken) => continued [d] (rest.drop taken)
      | none =>
        match rest.head?.bind escape? with
        | some d => continued [d] (rest.drop 1)
        | none => continued [c] rest

/-- A text with its escapes resolved, and whether it goes on behind it. -/
def unescape (e : Escapes) (cs : List Char) : List Char × Bool :=
  unescapeIn e cs.length cs

/-! ## Echo -/

/-- Texts with spaces between them. -/
def spaced (texts : List (List Char)) : List Char :=
  [' '].intercalate texts

/-- Writes a text to the output and tells whether that was done. -/
def printing (cs : List Char) : Act Nat := do
  if ← Act.print cs then return 0
  else
    let name := (← Act.process).command
    Act.complain (name ++ ": I/O error".toList)
    return 1

/-- Writes the arguments, in which the shell resolves escapes. -/
def echo : Tool := fun _ args => do
  let (silent, args) := match args with
    | ['-', 'n'] :: rest => (true, rest)
    | args => (false, args)
  let (text, goesOn) := unescape ⟨true, false, false⟩ (spaced args)
  printing (if silent || !goesOn then text else text ++ ['\n'])

/-- The letters of the options in front of arguments, out of those that there
are. -/
def lettersOf (known : List Char) : List (List Char) → List Char × List (List Char)
  | ('-' :: letters) :: rest =>
    if letters.isEmpty || !letters.all known.contains then ([], ('-' :: letters) :: rest)
    else
      let (more, rest) := lettersOf known rest
      (letters ++ more, rest)
  | args => ([], args)

/-- Writes the arguments, in which the program resolves escapes when asked to. -/
def echoProgram : Tool := fun _ args => do
  let (letters, args) := lettersOf ['n', 'e', 'E'] args
  let resolves := (letters.filter (· != 'n')).getLast? == some 'e'
  let (text, goesOn) :=
    if resolves then unescape ⟨true, true, true⟩ (spaced args) else (spaced args, true)
  printing (if letters.contains 'n' || !goesOn then text else text ++ ['\n'])

/-! ## Formats -/

/-- What a format says about one argument. -/
structure Directive where
  flags : List Char
  width : Nat
  precision : Option Nat
  conversion : Char
deriving Repr

/-- A text in a field of some width. -/
def Directive.fill (d : Directive) (cs : List Char) : List Char :=
  let blanks := List.replicate (d.width - cs.length) ' '
  if d.flags.contains '-' then cs ++ blanks else blanks ++ cs

/-- A sign and digits in a field of some width, which zeros may fill. -/
def Directive.fillNumber (d : Directive) (sign digits : List Char) : List Char :=
  let digits := match d.precision with
    | some n => List.replicate (n - digits.length) '0' ++ digits
    | none =>
      if d.flags.contains '0' && !d.flags.contains '-' then
        List.replicate (d.width - sign.length - digits.length) '0' ++ digits
      else digits
  d.fill (sign ++ digits)

/-- The octal digits of a number. -/
def octalDigits (n : Nat) : List Char :=
  Nat.toDigits 8 n

/-- The text of a number as a directive says. -/
def Directive.integer (d : Directive) (n : Int64) : List Char :=
  let plain := n.toInt.natAbs
  let word := n.toUInt64.toNat
  let sign := if n < 0 then ['-'] else if d.flags.contains '+' then ['+']
    else if d.flags.contains ' ' then [' '] else []
  let isMarked := d.flags.contains '#' && word != 0
  match d.conversion with
  | 'u' => d.fillNumber [] (Numeral.decimal word)
  | 'o' => d.fillNumber (if isMarked then ['0'] else []) (octalDigits word)
  | 'x' => d.fillNumber (if isMarked then ['0', 'x'] else []) (Numeral.hexadecimal word)
  | 'X' =>
    d.fillNumber (if isMarked then ['0', 'X'] else [])
      ((Numeral.hexadecimal word).map Char.toUpper)
  | _ => d.fillNumber sign (Numeral.decimal plain)

/-- The text of a fraction as a directive says.  Zeros fill the field only in
front of digits. -/
def Directive.fraction (d : Directive) (x : Fraction) : List Char :=
  let sign := if x.negative then ['-'] else if d.flags.contains '+' then ['+']
    else if d.flags.contains ' ' then [' '] else []
  let text := Fraction.textOf d.conversion d.precision (d.flags.contains '#') x.magnitude
  let isFinite := !x.magnitude.isNaN && !x.magnitude.isInfinite
  let flags := if isFinite then d.flags else d.flags.filter (· != '0')
  let (sign, text) := if text.take 2 = ['0', 'x'] || text.take 2 = ['0', 'X'] then
      (sign ++ text.take 2, text.drop 2)
    else (sign, text)
  Directive.fillNumber { d with precision := none, flags } sign text

/-- The state of a format that is filled in. -/
structure Filling where
  output : List Char
  args : List (List Char)
  status : Nat
  goesOn : Bool

/-- The number that an argument is, with what is said about one that is none. -/
def numberOf (cs : List Char) : Int64 × Option String :=
  match cs with
  | '\x22' :: c :: _ | '\x27' :: c :: _ => (Int64.ofNat c.toNat, none)
  | cs =>
    let trimmed := cs.dropWhile Sum.isBlank
    let (negative, digits) := match trimmed with
      | '-' :: rest => (true, rest)
      | '+' :: rest | rest => (false, rest)
    let (n, length) := Sum.numeral digits
    let value := if negative then -(Int64.ofNat n) else Int64.ofNat n
    if length = 0 then (0, if cs.isEmpty then none else some "expected numeric value")
    else (value, if digits.length = length then none else some "not completely converted")

/-- Takes the number for a width or a precision. -/
def numberArgument (f : Filling) : Act (Nat × Filling) := do
  let arg := f.args.headD []
  return ((numberOf arg).1.toNatClampNeg, { f with args := f.args.drop 1 })

/-- A number in a format, which an asterisk takes from the arguments. -/
def measure (format : List Char) (f : Filling) : Act (Option Nat × List Char × Filling) := do
  match format with
  | '*' :: rest =>
    let (n, f) ← numberArgument f
    return (some n, rest, f)
  | format =>
    let digits := format.takeWhile Numeral.isDigit
    return (if digits.isEmpty then none else some (Numeral.valueOf digits),
      format.drop digits.length, f)

/-- Fills in one argument. -/
def convert (d : Directive) (text : List Char) (f : Filling) : Act Filling := do
  let arg := f.args.headD []
  let f := { f with args := f.args.drop 1 }
  let shortened := match d.precision with
    | some n => arg.take n
    | none => arg
  match d.conversion with
  | 's' => return { f with output := f.output ++ d.fill shortened }
  | 'c' => return { f with output := f.output ++ d.fill (arg.take 1) }
  | 'b' =>
    let (cs, goesOn) := unescape ⟨true, false, false⟩ arg
    return { f with output := f.output ++ d.fill cs, goesOn }
  | c =>
    if ['d', 'i', 'o', 'u', 'x', 'X'].contains c then
      let (n, complaint) := numberOf arg
      if let some complaint := complaint then
        Act.complain (arg ++ ": ".toList ++ complaint.toList)
      return { f with
        output := f.output ++ d.integer n, status := if complaint.isSome then 1 else f.status }
    else if ['f', 'F', 'e', 'E', 'g', 'G', 'a', 'A'].contains c then
      let (x, complaint) := Fraction.ofArgument arg
      if let some complaint := complaint then
        Act.complain (arg ++ ": ".toList ++ complaint.toList)
      return { f with
        output := f.output ++ d.fraction x, status := if complaint.isSome then 1 else f.status }
    else
      let _ ← printing f.output
      Act.refuse (String.ofList text ++ ": invalid directive")

/-- Fills in a format once.  Every step takes a character. -/
def fillIn : Nat → List Char → Filling → Act Filling
  | 0, _, f => return f
  | _, [], f => return f
  | steps + 1, c :: rest, f => do
    if !f.goesOn then return f
    else if c = '\\' then
      match (octal? ⟨false, false, false⟩ rest) with
      | some (d, taken) => fillIn steps (rest.drop taken) { f with output := f.output ++ [d] }
      | none =>
        match rest.head?.bind escape? with
        | some d => fillIn steps (rest.drop 1) { f with output := f.output ++ [d] }
        | none => fillIn steps rest { f with output := f.output ++ [c] }
    else if c != '%' then fillIn steps rest { f with output := f.output ++ [c] }
    else if rest.head? == some '%' then
      fillIn steps (rest.drop 1) { f with output := f.output ++ ['%'] }
    else
      let flags := rest.takeWhile ['#', '-', '+', ' ', '0'].contains
      let (width, after, f) ← measure (rest.drop flags.length) f
      let (precision, after, f) ← match after with
        | '.' :: after => do
          let (n, after, f) ← measure after f
          pure (some (n.getD 0), after, f)
        | after => pure (none, after, f)
      match after with
      | [] =>
        let _ ← printing f.output
        Act.refuse "missing format character"
      | conversion :: after =>
        let text := c :: rest.take (rest.length - after.length)
        fillIn steps after
          (← convert ⟨flags, width.getD 0, precision, conversion⟩ text f)

/-- Fills in a format again while there are arguments left. -/
def fillInAll (format : List Char) : Nat → Filling → Act Filling
  | 0, f => return f
  | steps + 1, f => do
    let filled ← fillIn format.length format f
    if filled.args.isEmpty || filled.args.length = f.args.length || !filled.goesOn then
      return filled
    else fillInAll format steps filled

/-- Writes the arguments as a format says. -/
def printf : Tool := fun _ args => do
  let args ← match args with
    | ['-', '-'] :: rest => pure rest
    | ('-' :: letter :: _) :: _ => Act.refuse ("Illegal option -" ++ letter.toString)
    | args => pure args
  match args with
  | [] => Act.refuse "usage: printf format [arg ...]"
  | format :: args =>
    let f ← fillInAll format (args.length + 1) ⟨[], args, 0, true⟩
    let status ← printing f.output
    return max status f.status

end Tools

end EmbeddedPython.Shell
