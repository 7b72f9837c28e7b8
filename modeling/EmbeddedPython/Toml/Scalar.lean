import EmbeddedPython.Calendar
import EmbeddedPython.Toml.Fault
import EmbeddedPython.Toml.Text
import EmbeddedPython.Toml.Value

/-!
# Reading scalars of TOML documents

Strings in their four styles, numbers, booleans, dates and times.  Each
reader gives a value and the characters behind it.
-/

namespace EmbeddedPython.Toml

/-- A blank or a tab. -/
def isGap (c : Char) : Bool :=
  c == ' ' || c == '\t'

/-- The characters without the gap in front. -/
def dropGap (cs : List Char) : List Char :=
  cs.dropWhile isGap

/-! ## Strings -/

/-- The character of a number that is a scalar value. -/
def scalar? (n : Nat) : Option Char :=
  if n.isValidChar then some (Char.ofNat n) else none

/-- The number that hexadecimal digits stand for. -/
def hexNumber? (digits : List Char) : Option Nat :=
  (digits.mapM Numeral.hexValue?).map fun values => values.foldl (fun n v => n * 16 + v) 0

/-- The character of an escape with exactly `count` digits, and how many
characters the escape has behind its backslash. -/
def numberedEscape? (count : Nat) (cs : List Char) : Option (Char × Nat) :=
  if (cs.take count).length = count then
    ((hexNumber? (cs.take count)).bind scalar?).map fun c => (c, count + 1)
  else none

/-- The character of an escape behind its backslash, and how many
characters the escape has there. -/
def escape? : List Char → Option (Char × Nat)
  | [] => none
  | e :: rest =>
    if e = 'b' then some ('\x08', 1)
    else if e = 't' then some ('\t', 1)
    else if e = 'n' then some ('\n', 1)
    else if e = 'f' then some ('\x0c', 1)
    else if e = 'r' then some ('\r', 1)
    else if e = 'e' then some ('\x1b', 1)
    else if e = '\\' || e = doubleQuote then some (e, 1)
    else if e = 'x' then numberedEscape? 2 rest
    else if e = 'u' then numberedEscape? 4 rest
    else if e = 'U' then numberedEscape? 8 rest
    else none

/-- The characters of a basic string up to its quote. -/
def basicBody (cs : List Char) : Except Fault (List Char × List Char) :=
  match cs with
  | [] => .error (.here cs "invalid basic string, expected `\"`")
  | c :: rest =>
    if c = doubleQuote then .ok ([], rest)
    else if c = '\\' then
      match escape? rest with
      | none => .error (.here cs "missing escaped value")
      | some (e, count) => do
        let (body, after) ← basicBody (rest.drop count)
        return (e :: body, after)
    else if c = '\n' || isControl c then .error (.here cs "invalid basic string")
    else do
      let (body, after) ← basicBody rest
      return (c :: body, after)
termination_by cs.length
decreasing_by all_goals (simp only [List.length_drop, List.length_cons]; omega)

/-- The characters of a literal string up to its quote. -/
def literalBody : List Char → Except Fault (List Char × List Char)
  | [] => .error (.here [] "invalid literal string, expected `'`")
  | c :: rest =>
    if c = singleQuote then .ok ([], rest)
    else if c = '\n' || isControl c then .error (.here (c :: rest) "invalid literal string")
    else do
      let (body, after) ← literalBody rest
      return (c :: body, after)

/-- The length of the row of a character in front. -/
def leadingRun (c : Char) (cs : List Char) : Nat :=
  (cs.takeWhile (· = c)).length

/-- The end of a long string at a row of quotes: how many of them belong to
the string, if the row is an end. -/
def quotesBeforeEnd? (quote : Char) (cs : List Char) : Option Nat :=
  let run := leadingRun quote cs
  if 3 ≤ run then some (min run 5 - 3) else none

/-- The characters behind blanks are a line end. -/
def atLineEnd (cs : List Char) : Bool :=
  match dropGap cs with
  | '\n' :: _ | '\r' :: '\n' :: _ => true
  | _ => false

/-- The characters without the blanks and line ends in front. -/
def dropLines : List Char → List Char
  | '\r' :: '\n' :: rest => dropLines rest
  | c :: rest => if isGap c || c = '\n' then dropLines rest else c :: rest
  | [] => []

theorem length_dropLines_le (cs : List Char) : (dropLines cs).length ≤ cs.length := by
  fun_induction dropLines cs with
  | case1 rest ih => exact Nat.le_succ_of_le (Nat.le_succ_of_le ih)
  | case2 c rest _ _ ih => exact Nat.le_succ_of_le ih
  | case3 | case4 => exact Nat.le_refl _

/-- The characters of a long string in either style up to its quotes. -/
def longBody (quote : Char) (escapes : Bool) (cs : List Char) :
    Except Fault (List Char × List Char) :=
  match cs with
  | [] => .error (.here cs "invalid multi-line string")
  | c :: rest =>
    match quotesBeforeEnd? quote cs with
    | some inside => .ok (List.replicate inside quote, cs.drop (inside + 3))
    | none =>
      if c = '\\' && escapes then
        if atLineEnd rest then longBody quote escapes (dropLines rest)
        else
          match escape? rest with
          | none => .error (.here cs "missing escaped value")
          | some (e, count) => do
            let (body, after) ← longBody quote escapes (rest.drop count)
            return (e :: body, after)
      else if c = '\r' then
        match rest with
        | '\n' :: more => do
          let (body, after) ← longBody quote escapes more
          return ('\r' :: '\n' :: body, after)
        | _ => .error (.here cs "carriage return must be followed by newline, expected newline")
      else if isControl c then .error (.here cs "invalid multi-line string")
      else do
        let (body, after) ← longBody quote escapes rest
        return (c :: body, after)
termination_by cs.length
decreasing_by
  · have := length_dropLines_le rest
    simp only [List.length_cons]; omega
  · simp only [List.length_drop, List.length_cons]; omega
  · simp only [List.length_cons]; omega
  · simp only [List.length_cons]; omega

/-- The characters behind a line end right behind the opening quotes. -/
def dropFirstLineEnd : List Char → List Char
  | '\n' :: rest => rest
  | '\r' :: '\n' :: rest => rest
  | cs => cs

/-- A basic string behind its opening quote. -/
def readBasic (cs : List Char) : Except Fault (String × List Char) := do
  let (body, after) ← basicBody cs
  return (String.ofList body, after)

/-- A literal string behind its opening quote. -/
def readLiteral (cs : List Char) : Except Fault (String × List Char) := do
  let (body, after) ← literalBody cs
  return (String.ofList body, after)

/-- A long string behind its opening quotes. -/
def readLong (quote : Char) (escapes : Bool) (cs : List Char) :
    Except Fault (String × List Char) := do
  let (body, after) ← longBody quote escapes (dropFirstLineEnd cs)
  return (String.ofList body, after)

/-! ## Numbers -/

/-- The digits of a row in which single underscores stand between digits. -/
def digits? (isDigit : Char → Bool) : List Char → Option (List Char)
  | [] => none
  | [c] => if isDigit c then some [c] else none
  | c :: '_' :: rest =>
    if isDigit c then (digits? isDigit rest).map (c :: ·) else none
  | c :: rest => if isDigit c then (digits? isDigit rest).map (c :: ·) else none

/-- Decimal digits without a zero in front of others. -/
def wholeDigits? (cs : List Char) : Option (List Char) :=
  match cs with
  | '0' :: _ :: _ => none
  | _ => digits? Numeral.isDigit cs

/-- A sign, if there is one, and what follows. -/
def splitSign : List Char → Bool × List Char
  | '-' :: rest => (true, rest)
  | '+' :: rest => (false, rest)
  | cs => (false, cs)

/-- The number of digits of a base. -/
def inBase (base : Nat) (digits : List Char) : Nat :=
  digits.foldl (fun n c => n * base + (Numeral.hexValue? c).getD 0) 0

/-- A digit of a base. -/
def isDigitOf (base : Nat) (c : Char) : Bool :=
  match Numeral.hexValue? c with
  | some v => v < base
  | none => false

/-- An integer in one of the four bases. -/
def integer? (cs : List Char) : Option Int :=
  match cs with
  | '0' :: 'x' :: rest => (digits? (isDigitOf 16) rest).map fun ds => (inBase 16 ds : Int)
  | '0' :: 'o' :: rest => (digits? (isDigitOf 8) rest).map fun ds => (inBase 8 ds : Int)
  | '0' :: 'b' :: rest => (digits? (isDigitOf 2) rest).map fun ds => (inBase 2 ds : Int)
  | _ =>
    let (negative, rest) := splitSign cs
    (wholeDigits? rest).map fun ds =>
      if negative then -(Numeral.valueOf ds : Int) else (Numeral.valueOf ds : Int)

/-- The integers that a document may hold. -/
def isStorable (n : Int) : Bool :=
  -(Nat.pow 2 127 : Nat) ≤ n && n < Nat.pow 2 128

/-- The digits of an exponent, with its sign. -/
def exponent? (cs : List Char) : Option Int :=
  let (negative, rest) := splitSign cs
  (digits? Numeral.isDigit rest).map fun ds =>
    if negative then -(Numeral.valueOf ds : Int) else (Numeral.valueOf ds : Int)

/-- The exponent that follows a number, zero if there is none. -/
def exponentPart? : List Char → Option Int
  | [] => some 0
  | e :: rest => if e = 'e' || e = 'E' then exponent? rest else none

/-- A character in front of an exponent. -/
def isMantissa (c : Char) : Bool :=
  c != 'e' && c != 'E'

/-- The digits of a number with a fraction or an exponent, and the power of
ten that they are multiplied with. -/
def decimal? (cs : List Char) : Option (Nat × Int) :=
  let rest := (splitSign cs).2
  let mantissa := rest.takeWhile isMantissa
  let tail := rest.dropWhile isMantissa
  let whole := mantissa.takeWhile (· != '.')
  match wholeDigits? whole, exponentPart? tail with
  | some ds, some e =>
    match mantissa.dropWhile (· != '.') with
    | [] => if tail.isEmpty then none else some (Numeral.valueOf ds, e)
    | _ :: fraction =>
      (digits? Numeral.isDigit fraction).map fun fs =>
        (Numeral.valueOf (ds ++ fs), e - fs.length)
  | _, _ => none

/-- How many digits a number has in front of its point at most. -/
def magnitude (digits : Nat) (e : Int) : Int :=
  (Numeral.decimal digits).length + e

/-- A number that a double can hold.  The bound is halfway between the
largest double and the power of two above. -/
def fitsDouble (digits : Nat) (e : Int) : Bool :=
  if digits = 0 || magnitude digits e < 300 then true
  else if 400 < magnitude digits e then false
  else
    let bound := Nat.pow 2 1024 - Nat.pow 2 970
    if 0 ≤ e then digits * Nat.pow 10 e.toNat < bound
    else digits < bound * Nat.pow 10 (-e).toNat

/-- A word for a number that no digits write. -/
def isSpecialFloat (cs : List Char) : Bool :=
  let word := (splitSign cs).2
  word == "inf".toList || word == "nan".toList

/-! ## Dates and times -/

/-- A number of exactly `count` digits in front, and what follows. -/
def fixed? (count : Nat) (cs : List Char) : Option (Nat × List Char) :=
  let digits := cs.take count
  if digits.length = count then
    (Numeral.value? digits).map fun n => (n, cs.drop count)
  else none

/-- What follows a character. -/
def behind? (c : Char) : List Char → Option (List Char)
  | d :: rest => if d = c then some rest else none
  | [] => none

/-- What follows a day of the calendar. -/
def afterDate? (cs : List Char) : Option (List Char) := do
  let (year, cs) ← fixed? 4 cs
  let cs ← behind? '-' cs
  let (month, cs) ← fixed? 2 cs
  let cs ← behind? '-' cs
  let (day, cs) ← fixed? 2 cs
  if Calendar.isDay year month day then some cs else none

/-- What follows the seconds of a time, which may be missing. -/
def afterSeconds? (cs : List Char) : Option (List Char) :=
  match cs with
  | ':' :: rest => do
    let (second, cs) ← fixed? 2 rest
    if second ≤ 60 then
      match cs with
      | '.' :: fraction =>
        let digits := fraction.takeWhile Numeral.isDigit
        if digits.isEmpty then none else some (fraction.drop digits.length)
      | _ => some cs
    else none
  | _ => some cs

/-- What follows an hour and a minute. -/
def afterMinute? (cs : List Char) : Option (List Char) := do
  let (hour, cs) ← fixed? 2 cs
  let cs ← behind? ':' cs
  let (minute, cs) ← fixed? 2 cs
  if hour < 24 && minute < 60 then some cs else none

/-- What follows a time of day. -/
def afterTime? (cs : List Char) : Option (List Char) :=
  (afterMinute? cs).bind afterSeconds?

/-- A time zone. -/
def isZone (cs : List Char) : Bool :=
  match cs with
  | [] => true
  | c :: rest =>
    if c = 'Z' || c = 'z' then rest.isEmpty
    else if c = '+' || c = '-' then afterMinute? rest == some []
    else false

/-- A character between a date and a time. -/
def isDateSeparator (c : Char) : Bool :=
  c == 'T' || c == 't' || c == ' '

/-- A date, a time or both. -/
def isDateTime (cs : List Char) : Bool :=
  match afterDate? cs with
  | some [] => true
  | some (c :: rest) =>
    isDateSeparator c && (afterTime? rest).any isZone
  | none => afterTime? cs == some []

/-! ## Scalars -/

/-- A character of a scalar without quotes. -/
def isWordPart (c : Char) : Bool :=
  c.isAlphanum || c == '_' || c == '+' || c == '-' || c == '.' || c == ':'

/-- The word in front.  A blank belongs to it where it stands between a date
and a time. -/
def scalarWord (cs : List Char) : List Char :=
  let word := cs.takeWhile isWordPart
  match afterDate? word, cs.drop word.length with
  | some [], ' ' :: rest =>
    if (afterMinute? rest).isSome then word ++ ' ' :: rest.takeWhile isWordPart else word
  | _, _ => word

/-- The value that a word writes. -/
def ofWord (word : List Char) : Option Value :=
  if word = "true".toList then some (.boolean true)
  else if word = "false".toList then some (.boolean false)
  else if isSpecialFloat word then some (.float (String.ofList word))
  else
    match integer? word with
    | some n => if isStorable n then some (.integer n) else none
    | none =>
      match decimal? word with
      | some (digits, e) =>
        if fitsDouble digits e then some (.float (String.ofList word)) else none
      | none => if isDateTime word then some (.dateTime (String.ofList word)) else none

/-- A scalar. -/
def readScalar (cs : List Char) : Except Fault (Value × List Char) :=
  let string (read : Except Fault (String × List Char)) : Except Fault (Value × List Char) :=
    read.map fun (s, after) => (.string s, after)
  match cs with
  | '\x22' :: '\x22' :: '\x22' :: rest => string (readLong doubleQuote true rest)
  | '\x27' :: '\x27' :: '\x27' :: rest => string (readLong singleQuote false rest)
  | '\x22' :: rest => string (readBasic rest)
  | '\x27' :: rest => string (readLiteral rest)
  | _ =>
    let word := scalarWord cs
    match ofWord word with
    | some v => .ok (v, cs.drop word.length)
    | none => .error (.here cs "string values must be quoted, expected literal string")

end EmbeddedPython.Toml
