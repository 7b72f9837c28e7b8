import EmbeddedPython.Double
import EmbeddedPython.Text.Numeral

/-!
# The text of a double

A double is shown by the fewest decimal digits that read back as the same
double.  `shortest` finds them: for each count of digits from one upwards
it tests the two neighbours of the value on the decimal grid of that many
digits, in exact arithmetic, against the interval of reals that round to
the value.  The first grid with a hit wins, and of two hits the nearer.

`Layout` says how the digits are written out, and `Double.layout` is the
one layout that messages use.
-/

namespace EmbeddedPython.Double

/-! ## The interval of a double -/

/-- A positive rational number. -/
structure Ratio where
  numerator : Nat
  denominator : Nat

/-- `n * 2 ^ e` as a quotient. -/
def Ratio.binary (n : Nat) (e : Int) : Ratio :=
  ⟨n * Nat.pow 2 e.toNat, Nat.pow 2 (-e).toNat⟩

/-- `n * 10 ^ e` as a quotient. -/
def Ratio.decimal (n : Nat) (e : Int) : Ratio :=
  ⟨n * Nat.pow 10 e.toNat, Nat.pow 10 (-e).toNat⟩

/-- The order of two quotients. -/
def Ratio.compare (a b : Ratio) : Ordering :=
  Ord.compare (a.numerator * b.denominator) (b.numerator * a.denominator)

/-- The magnitude of a finite double. -/
def magnitude (x : Double) : Ratio :=
  .binary (4 * x.significand) (x.exponent - 2)

/-- The lower end of the reals that round to the magnitude.  Below a power
of two the doubles lie twice as close. -/
def lowerEnd (x : Double) : Ratio :=
  let gap := if x.fraction = 0 && 1 < x.exponentField then 1 else 2
  .binary (4 * x.significand - gap) (x.exponent - 2)

/-- The upper end of the reals that round to the magnitude. -/
def upperEnd (x : Double) : Ratio :=
  .binary (4 * x.significand + 2) (x.exponent - 2)

/-- A quotient that rounds to the magnitude.  The ends belong to the even
significand. -/
def readsBack (x : Double) (r : Ratio) : Bool :=
  let even := x.significand % 2 = 0
  let low := (lowerEnd x).compare r
  let high := r.compare (upperEnd x)
  (low == .lt || (even && low == .eq)) && (high == .lt || (even && high == .eq))

/-! ## Shortest digits -/

/-- The least `j ≥ from` with `1 ≤ r * 10 ^ j`, looked for in `fuel`
steps. -/
def firstScale (r : Ratio) (start : Nat) : Nat → Nat
  | 0 => start
  | fuel + 1 =>
    if r.denominator ≤ r.numerator * Nat.pow 10 start then start
    else firstScale r (start + 1) fuel

/-- The decimal exponent of the leading digit of a positive quotient. -/
def leadingExponent (r : Ratio) : Int :=
  if r.denominator ≤ r.numerator then
    ((Numeral.decimal (r.numerator / r.denominator)).length : Int) - 1
  else -(firstScale r 1 400 : Int)

/-- The distance between two quotients, times their denominators. -/
def Ratio.distance (a b : Ratio) : Nat :=
  let p := a.numerator * b.denominator
  let q := b.numerator * a.denominator
  (p - q) + (q - p)

/-- A decimal value `digits * 10 ^ power`. -/
structure Decimal where
  digits : Nat
  power : Int

/-- The neighbour of the magnitude on the grid `10 ^ power` that reads
back, if there is one.  Of two, the nearer is taken, and of two equally
near ones the even one. -/
def onGrid? (x : Double) (power : Int) : Option Decimal :=
  let v := magnitude x
  let step := Ratio.decimal 1 power
  let below := v.numerator * step.denominator / (v.denominator * step.numerator)
  let low := Ratio.decimal below power
  let high := Ratio.decimal (below + 1) power
  match readsBack x low, readsBack x high with
  | false, false => none
  | true, false => some ⟨below, power⟩
  | false, true => some ⟨below + 1, power⟩
  | true, true =>
    match Ord.compare (v.distance low) (v.distance high) with
    | .lt => some ⟨below, power⟩
    | .gt => some ⟨below + 1, power⟩
    | .eq => some ⟨below + below % 2, power⟩

/-- The shortest decimal value that reads back as a finite double other
than zero. -/
def shortest (x : Double) : Decimal :=
  let lead := leadingExponent (magnitude x)
  let grids := (List.range 17).map fun (count : Nat) => lead - (count : Int)
  (grids.findSome? (onGrid? x)).getD ⟨x.significand, 0⟩

/-! ## Writing out -/

/-- How a double is written. -/
structure Layout where
  /-- The least exponent of the leading digit that is written without an
  exponent. -/
  leastPlain : Int
  /-- The first exponent of the leading digit that is written with one. -/
  firstScientific : Int
  /-- The text of a value that is not a number. -/
  nan : String
  /-- The text of the infinity without its sign. -/
  infinity : String
  /-- The text of an exponent. -/
  exponent : Int → List Char

/-- Messages write plain digits from one ten-thousandth up to ten
quadrillions, both ends of the range to the lower side. -/
def layout : Layout where
  leastPlain := -4
  firstScientific := 16
  nan := "NaN"
  infinity := "inf"
  exponent := fun e => (Numeral.signed e).toList

/-- The interpreter writes exponents with a sign and at least two digits. -/
def interpretedLayout : Layout where
  leastPlain := -4
  firstScientific := 16
  nan := "nan"
  infinity := "inf"
  exponent := fun e =>
    (if e < 0 then '-' else '+') :: Numeral.padded 2 (Numeral.decimal e.natAbs)

/-- The digits of a decimal value without zeros at the end. -/
def Decimal.significant (d : Decimal) : List Char :=
  ((Numeral.decimal d.digits).reverse.dropWhile (· == '0')).reverse

/-- The exponent of the leading digit. -/
def Decimal.lead (d : Decimal) : Int :=
  d.power + (Numeral.decimal d.digits).length - 1

/-- Digits around a decimal point, with the leading digit at the place
`lead`. -/
def plain (digits : List Char) (lead : Int) : List Char :=
  if lead < 0 then '0' :: '.' :: List.replicate (-lead - 1).toNat '0' ++ digits
  else
    let whole := lead.toNat + 1
    let fraction := digits.drop whole
    (digits ++ List.replicate (whole - digits.length) '0').take whole ++ '.' ::
      (if fraction.isEmpty then ['0'] else fraction)

/-- A leading digit, the others behind a point, and the exponent. -/
def scientific (l : Layout) (digits : List Char) (lead : Int) : List Char :=
  let tail := digits.drop 1
  digits.take 1 ++ (if tail.isEmpty then [] else '.' :: tail) ++ 'e' :: l.exponent lead

/-- The text of the magnitude of a finite double. -/
def magnitudeText (l : Layout) (x : Double) : List Char :=
  if x.isZero then ['0', '.', '0']
  else
    let d := shortest x
    if l.leastPlain ≤ d.lead && d.lead < l.firstScientific then
      plain d.significant d.lead
    else scientific l d.significant d.lead

/-- The text of a double in a layout. -/
def textIn (l : Layout) (x : Double) : String :=
  if x.isNaN then l.nan
  else
    let sign := if x.isNegative then "-" else ""
    if x.isInfinite then sign ++ l.infinity
    else sign ++ String.ofList (magnitudeText l x)

/-- The text of a double in messages. -/
def text (x : Double) : String :=
  textIn layout x

end EmbeddedPython.Double
