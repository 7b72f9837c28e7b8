/-!
# Doubles

A double is given by its 64 bits in the binary interchange format: a sign,
eleven bits of exponent and 52 bits of fraction.  Nothing here calculates
with doubles.  They are carried from place to place, told apart by their
bits, made from integers (`ofInt?`) and shown (`Double.Text`).
-/

namespace EmbeddedPython

/-- A double in the binary interchange format. -/
structure Double where
  bits : UInt64
deriving Repr, DecidableEq, Inhabited

namespace Double

/-- The sign bit. -/
def isNegative (x : Double) : Bool :=
  Nat.pow 2 63 ≤ x.bits.toNat

/-- The exponent field. -/
def exponentField (x : Double) : Nat :=
  x.bits.toNat / Nat.pow 2 52 % Nat.pow 2 11

/-- The fraction field. -/
def fraction (x : Double) : Nat :=
  x.bits.toNat % Nat.pow 2 52

/-- Not a number. -/
def isNaN (x : Double) : Bool :=
  x.exponentField == 2047 && x.fraction != 0

/-- One of the two infinities. -/
def isInfinite (x : Double) : Bool :=
  x.exponentField == 2047 && x.fraction == 0

/-- One of the two zeros. -/
def isZero (x : Double) : Bool :=
  x.exponentField == 0 && x.fraction == 0

/-- The significand of a finite double: its magnitude is
`significand * 2 ^ exponent`. -/
def significand (x : Double) : Nat :=
  if x.exponentField = 0 then x.fraction else Nat.pow 2 52 + x.fraction

/-- The exponent of a finite double. -/
def exponent (x : Double) : Int :=
  if x.exponentField = 0 then -1074 else (x.exponentField : Int) - 1075

/-- The double of a sign, a significand from `2 ^ 52` up to `2 ^ 53 - 1`
and an exponent field. -/
def pack (negative : Bool) (significand field : Nat) : Double :=
  ⟨((if negative then Nat.pow 2 63 else 0) + field * Nat.pow 2 52
    + (significand - Nat.pow 2 52)).toUInt64⟩

/-- `n / 2 ^ shift`, rounded to the nearest integer.  A half goes to the
even neighbour. -/
def roundShift (n shift : Nat) : Nat :=
  let quotient := n / Nat.pow 2 shift
  let twice := 2 * (n % Nat.pow 2 shift)
  if Nat.pow 2 shift < twice then quotient + 1
  else if twice = Nat.pow 2 shift then quotient + quotient % 2
  else quotient

/-- The double nearest to an integer, with ties to the even significand.
There is none if the nearest value lies beyond the largest double. -/
def ofInt? (n : Int) : Option Double :=
  let magnitude := n.natAbs
  if magnitude = 0 then some ⟨0⟩
  else
    let size := magnitude.log2 + 1
    if size ≤ 53 then
      some (pack (n < 0) (magnitude * Nat.pow 2 (53 - size)) (size + 1022))
    else
      let rounded := roundShift magnitude (size - 53)
      let (significand, size) :=
        if rounded = Nat.pow 2 53 then (Nat.pow 2 52, size + 1) else (rounded, size)
      if size ≤ 1024 then some (pack (n < 0) significand (size + 1022)) else none

/-- The sum of a double and one. -/
def plusOne (x : Double) : Double :=
  ⟨(Float.ofBits x.bits + 1.0).toBits⟩

end Double

end EmbeddedPython
