import EmbeddedPython.Double
import EmbeddedPython.Shell.Sum

/-!
# Fractions in formats

The text of a number that may have a fraction, as a format asks for it.  A
number is a double, and its digits are those of the exact value, rounded to the
nearest with ties to the even digit (`Fraction.roundRatio`).
-/

namespace EmbeddedPython.Shell

/-- A sign and a magnitude. -/
structure Fraction where
  negative : Bool
  magnitude : Double
deriving Repr

namespace Fraction

/-! ## Reading -/

/-- The digits in front of a point and behind it, and the characters that they
take. -/
def digitsIn (cs : List Char) : List Char × List Char × Nat :=
  let whole := cs.takeWhile Numeral.isDigit
  match cs.drop whole.length with
  | '.' :: rest =>
    let places := rest.takeWhile Numeral.isDigit
    if whole.isEmpty && places.isEmpty then ([], [], 0)
    else (whole, places, whole.length + 1 + places.length)
  | _ => (whole, [], whole.length)

/-- The exponent at the front, and the characters that it takes. -/
def exponentIn (cs : List Char) : Int × Nat :=
  match cs with
  | e :: rest =>
    if e != 'e' && e != 'E' then (0, 0)
    else
      let (negative, signs) := match rest with
        | '-' :: _ => (true, 1)
        | '+' :: _ => (false, 1)
        | _ => (false, 0)
      let digits := (rest.drop signs).takeWhile Numeral.isDigit
      if digits.isEmpty then (0, 0)
      else
        let n : Int := min (Numeral.valueOf digits) 5000
        (if negative then -n else n, 1 + signs + digits.length)
  | [] => (0, 0)

/-- The double of a decimal number. -/
def decimal (mantissa : Nat) (exponent : Int) : Double :=
  ⟨(Float.ofScientific mantissa (exponent < 0) exponent.natAbs).toBits⟩

/-- The double of infinity. -/
def infinity : Double :=
  ⟨(2047 * Nat.pow 2 52).toUInt64⟩

/-- The names of values that no digits tell. -/
def names : List (String × Double) :=
  [("infinity", infinity), ("inf", infinity), ("nan", ⟨(4095 * Nat.pow 2 51).toUInt64⟩)]

/-- The magnitude at the front, and the characters that it takes. -/
def magnitudeIn (cs : List Char) : Double × Nat :=
  let lower := cs.map Char.toLower
  match names.find? fun name => name.1.toList.isPrefixOf lower with
  | some (name, x) => (x, name.length)
  | none =>
    let digits := Sum.digitsOf 16 (cs.drop 2)
    if lower.take 2 = ['0', 'x'] && !digits.isEmpty then
      (decimal (digits.foldl (fun n d => 16 * n + d) 0) 0, digits.length + 2)
    else
      let (whole, places, length) := digitsIn cs
      if length = 0 then (⟨0⟩, 0)
      else
        let (exponent, more) := exponentIn (cs.drop length)
        (decimal (Numeral.valueOf (whole ++ places)) (exponent - (places.length : Int)),
          length + more)

/-- The number that an argument is, with what is said about one that is none. -/
def ofArgument (cs : List Char) : Fraction × Option String :=
  match cs with
  | '\x22' :: c :: _ | '\x27' :: c :: _ => (⟨false, decimal c.toNat 0⟩, none)
  | cs =>
    let trimmed := cs.dropWhile Sum.isBlank
    let (negative, digits) := match trimmed with
      | '-' :: rest => (true, rest)
      | '+' :: rest | rest => (false, rest)
    let (x, length) := magnitudeIn digits
    if length = 0 then (⟨false, ⟨0⟩⟩, if cs.isEmpty then none else some "expected numeric value")
    else
      (⟨negative, x⟩, if digits.length = length then none else some "not completely converted")

/-! ## Rounding -/

/-- The whole number nearest to a ratio, with ties to the even one. -/
def roundRatio (numerator denominator : Nat) : Nat :=
  let quotient := numerator / denominator
  let twice := 2 * (numerator % denominator)
  if denominator < twice then quotient + 1
  else if twice = denominator then quotient + quotient % 2
  else quotient

/-- A finite double times a power of ten, as a ratio. -/
def ratio (x : Double) (places : Int) : Nat × Nat :=
  (x.significand * Nat.pow 2 x.exponent.toNat * Nat.pow 10 places.toNat,
    Nat.pow 2 (-x.exponent).toNat * Nat.pow 10 (-places).toNat)

/-- A finite double times a power of ten, rounded. -/
def scaled (x : Double) (places : Int) : Nat :=
  let (numerator, denominator) := ratio x places
  roundRatio numerator denominator

/-- Digits with a point in front of the last ones. -/
def withPoint (places : Nat) (marked : Bool) (digits : List Char) : List Char :=
  let digits := List.replicate (places + 1 - digits.length) '0' ++ digits
  let front := digits.take (digits.length - places)
  if places = 0 && !marked then front else front ++ '.' :: digits.drop (digits.length - places)

/-- The text with so many places and no exponent. -/
def fixed (x : Double) (places : Nat) (marked : Bool) : List Char :=
  withPoint places marked (Numeral.decimal (scaled x places))

/-- The power of ten of the first digit of a positive double: counted down from
a power that is too large. -/
def leading (x : Double) : Nat → Int
  | 0 => -400
  | steps + 1 =>
    let power : Int := (steps : Int) - 400
    let (numerator, denominator) := ratio x (-power)
    if denominator ≤ numerator then power else leading x steps

/-- The digits with so many places behind the first one, and the power of ten of
the first. -/
def scientificDigits (x : Double) (places : Nat) : Nat × Int :=
  if x.isZero then (0, 0)
  else
    let power := leading x 800
    let digits := scaled x ((places : Int) - power)
    if digits = Nat.pow 10 (places + 1) then (Nat.pow 10 places, power + 1) else (digits, power)

/-- The text of a power of ten, with two digits at least. -/
def powerText (power : Int) : List Char :=
  let digits := Numeral.decimal power.natAbs
  'e' :: (if power < 0 then '-' else '+') :: (List.replicate (2 - digits.length) '0' ++ digits)

/-- The text with one digit in front of the point and an exponent. -/
def scientific (x : Double) (places : Nat) (marked : Bool) : List Char :=
  let (digits, power) := scientificDigits x places
  withPoint places marked (Numeral.decimal digits) ++ powerText power

/-- A text with a point without the zeros at its end. -/
def withoutZeros (cs : List Char) : List Char :=
  if cs.contains '.' then
    let kept := (cs.reverse.dropWhile (· == '0')).reverse
    if kept.getLast? == some '.' then kept.dropLast else kept
  else cs

/-- The shorter text of so many digits: the one with an exponent where that is
small or as large as the digits. -/
def general (x : Double) (digits : Nat) (marked : Bool) : List Char :=
  let digits := max digits 1
  let (shown, power) := scientificDigits x (digits - 1)
  let trim := if marked then id else withoutZeros
  if power < -4 || (digits : Int) ≤ power then
    trim (withPoint (digits - 1) marked (Numeral.decimal shown)) ++ powerText power
  else trim (fixed x ((digits : Int) - 1 - power).toNat marked)

/-- The text in powers of two, with all hexadecimal digits that count. -/
def hexadecimal (x : Double) : List Char :=
  let digits := Numeral.hexadecimal x.fraction
  let digits := List.replicate (13 - digits.length) '0' ++ digits
  let places := (digits.reverse.dropWhile (· == '0')).reverse
  let front := if x.exponentField = 0 then '0' else '1'
  let power : Int := if x.isZero then 0 else x.exponent + 52
  ['0', 'x', front] ++ (if places.isEmpty then [] else '.' :: places)
    ++ 'p' :: (if power < 0 then '-' else '+') :: Numeral.decimal power.natAbs

/-- The text of a magnitude as a conversion asks for it. -/
def textOf (conversion : Char) (precision : Option Nat) (marked : Bool) (x : Double) :
    List Char :=
  let places := precision.getD 6
  let text :=
    if x.isNaN then "nan".toList
    else if x.isInfinite then "inf".toList
    else
      match conversion.toLower with
      | 'f' => fixed x places marked
      | 'e' => scientific x places marked
      | 'g' => general x places marked
      | _ => hexadecimal x
  if conversion.isUpper then text.map Char.toUpper else text

end Fraction

end EmbeddedPython.Shell
