/-!
# Numerals

Whole numbers in decimal and hexadecimal digits.  `decimal` writes a
number without leading zeros, and `value?` reads any non-empty row of
digits, so `value?` undoes `decimal`.  `word32?` reads the numbers of a
version: one plus sign may stand in front, and a value that needs more
than 32 bits is refused.
-/

namespace EmbeddedPython.Numeral

/-! ## Writing -/

/-- The digit of a value below sixteen, in lower case. -/
def digit (n : Nat) : Char :=
  if n < 10 then Char.ofNat (0x30 + n) else Char.ofNat (0x61 + n - 10)

/-- The decimal digits of a number, without leading zeros. -/
def decimal (n : Nat) : List Char :=
  if n < 10 then [digit n] else decimal (n / 10) ++ [digit (n % 10)]
termination_by n

/-- The hexadecimal digits of a number, in lower case and without leading
zeros. -/
def hexadecimal (n : Nat) : List Char :=
  if n < 16 then [digit n] else hexadecimal (n / 16) ++ [digit (n % 16)]
termination_by n

/-- Digits with zeros in front, so that there are at least `width`. -/
def padded (width : Nat) (digits : List Char) : List Char :=
  List.replicate (width - digits.length) '0' ++ digits

/-- The decimal text of a number. -/
def text (n : Nat) : String :=
  String.ofList (decimal n)

/-- The decimal text of an integer. -/
def signed (n : Int) : String :=
  if n < 0 then "-" ++ text n.natAbs else text n.natAbs

/-- The decimal text of a number with at least `width` digits. -/
def textPadded (width n : Nat) : String :=
  String.ofList (padded width (decimal n))

/-- The two hexadecimal digits of an octet, in lower case. -/
def octetDigits (b : UInt8) : List Char :=
  padded 2 (hexadecimal b.toNat)

/-! ## Reading -/

/-- An ASCII decimal digit. -/
def isDigit (c : Char) : Bool :=
  '0' ≤ c && c ≤ '9'

/-- The value of a decimal digit. -/
def digitValue (c : Char) : Nat :=
  c.toNat - 0x30

/-- The number that a row of decimal digits stands for. -/
def valueOf (digits : List Char) : Nat :=
  digits.foldl (fun n c => n * 10 + digitValue c) 0

/-- The number of a non-empty row of decimal digits, and nothing else. -/
def value? (cs : List Char) : Option Nat :=
  if cs.isEmpty then none
  else if cs.all isDigit then some (valueOf cs)
  else none

theorem isDigit_digit : ∀ n < 10, isDigit (digit n) = true := by decide

theorem digitValue_digit : ∀ n < 10, digitValue (digit n) = n := by decide

theorem valueOf_append (digits : List Char) (c : Char) :
    valueOf (digits ++ [c]) = valueOf digits * 10 + digitValue c := by
  rw [valueOf, List.foldl_append]
  rfl

theorem decimal_ne_nil (n : Nat) : decimal n ≠ [] := by
  rw [decimal]
  split
  · exact List.cons_ne_nil _ _
  · exact List.append_ne_nil_of_right_ne_nil _ (List.cons_ne_nil _ _)

theorem isDigit_of_mem_decimal (n : Nat) : ∀ c ∈ decimal n, isDigit c = true := by
  fun_induction decimal n with
  | case1 n h =>
    intro c hc
    rw [List.mem_singleton.1 hc]
    exact isDigit_digit n h
  | case2 n h ih =>
    intro c hc
    cases List.mem_append.1 hc with
    | inl hc => exact ih c hc
    | inr hc =>
      rw [List.mem_singleton.1 hc]
      exact isDigit_digit _ (Nat.mod_lt _ (by decide))

theorem valueOf_decimal (n : Nat) : valueOf (decimal n) = n := by
  fun_induction decimal n with
  | case1 n h =>
    show 0 * 10 + digitValue (digit n) = n
    rw [digitValue_digit n h]
    omega
  | case2 n h ih =>
    rw [valueOf_append, ih, digitValue_digit _ (Nat.mod_lt _ (by decide))]
    omega

/-- Reading undoes writing. -/
theorem value?_decimal (n : Nat) : value? (decimal n) = some n := by
  have hsome : (decimal n).isEmpty = false := List.isEmpty_eq_false_iff.2 (decimal_ne_nil n)
  have hdigits : (decimal n).all isDigit = true :=
    List.all_eq_true.2 (isDigit_of_mem_decimal n)
  rw [value?, hsome, hdigits, valueOf_decimal]
  rfl

/-- The digits behind an optional plus sign. -/
def dropPlus : List Char → List Char
  | '+' :: rest => rest
  | cs => cs

/-- A number below `bound`, with an optional plus sign in front. -/
def bounded? (bound : Nat) (cs : List Char) : Option Nat :=
  match value? (dropPlus cs) with
  | some n => if n < bound then some n else none
  | none => none

/-- A number of 32 bits, with an optional plus sign in front. -/
def word32? (cs : List Char) : Option UInt32 :=
  (bounded? UInt32.size cs).map UInt32.ofNat

/-- The value of a hexadecimal digit of either case. -/
def hexValue? (c : Char) : Option Nat :=
  if isDigit c then some (digitValue c)
  else if 'a' ≤ c && c ≤ 'f' then some (c.toNat - 0x61 + 10)
  else if 'A' ≤ c && c ≤ 'F' then some (c.toNat - 0x41 + 10)
  else none

/-- The octets that pairs of hexadecimal digits stand for. -/
def octets? : List Char → Option (List UInt8)
  | [] => some []
  | [_] => none
  | a :: b :: rest => do
    let high ← hexValue? a
    let low ← hexValue? b
    let more ← octets? rest
    return (high * 16 + low).toUInt8 :: more

end EmbeddedPython.Numeral
