import EmbeddedPython.Path
import EmbeddedPython.Text.Blank
import EmbeddedPython.Text.Numeral

/-!
# Release series

A `Version` is a release series of the interpreter: a major number, and a
minor number where it is known.  There are two ways to one.

* `Version.parse` reads an explicit text such as `3.12` or `3.12.4rc1`.
* `Version.ofRoot` reads the name of an installation directory, such as
  `/opt/python3.12` or `Python312`: what follows the last `python` there.

`Version.text` writes a series, and `Version.canonical` runs its two
numbers together (`3.12` becomes `312`) in arithmetic of 32 bits.
-/

namespace EmbeddedPython

/-- A release series. -/
structure Version where
  major : UInt32
  /-- Absent when only the major number is known. -/
  minor : Option UInt32
deriving Repr, DecidableEq, Inhabited

/-- An operation of 32 bits without a result of 32 bits. -/
inductive Overflow where
  | multiply
  | add
deriving Repr, DecidableEq

/-- What is said about an overflow. -/
def Overflow.message : Overflow → String
  | multiply => "attempt to multiply with overflow"
  | add => "attempt to add with overflow"

namespace Version

/-- Why there is no series. -/
inductive Fault where
  /-- An explicit text that is no series. -/
  | invalid (text : String)
  /-- A root that names no series. -/
  | absent (root : String)
deriving Repr, DecidableEq

/-- What is said about a fault. -/
def Fault.message : Fault → String
  | invalid text => "Invalid python version provided: " ++ text
  | absent root => "Unable to extract python version from path: " ++ root

/-! ## Text -/

/-- The text of a series. -/
def text (v : Version) : String :=
  match v.minor with
  | some minor => Numeral.text v.major.toNat ++ "." ++ Numeral.text minor.toNat
  | none => Numeral.text v.major.toNat

/-- The stretches between the dots of a text. -/
def splitDots : List Char → List (List Char)
  | [] => [[]]
  | c :: rest =>
    match splitDots rest with
    | [] => [[c]]
    | first :: more =>
      if c = '.' then [] :: first :: more else (c :: first) :: more

/-- The series that an explicit text names: two numbers with a dot between
them, and anything behind a second dot. -/
def parse (s : String) : Except Fault Version :=
  match splitDots (Text.trimChars s.toList) with
  | a :: b :: _ =>
    match Numeral.word32? a, Numeral.word32? b with
    | some major, some minor => .ok ⟨major, some minor⟩
    | _, _ => .error (.invalid s)
  | _ => .error (.invalid s)

/-! ## Installation roots -/

/-- The word in front of the series in the name of an installation. -/
def marker : List Char := "python".toList

/-- Characters with ASCII letters in lower case. -/
def lowercase (cs : List Char) : List Char :=
  cs.map Char.toLower

/-- What follows the last marker, in any case. -/
def afterMarker? : List Char → Option (List Char)
  | [] => none
  | c :: rest =>
    match afterMarker? rest with
    | some found => some found
    | none =>
      if marker.isPrefixOf (lowercase (c :: rest)) then
        some ((c :: rest).drop marker.length)
      else none

/-- A character that ends the name of a directory, in a path of any kind. -/
def isSeparator (c : Char) : Bool :=
  c == '/' || c == '\\'

/-- The digits and dots that come first in a name, behind anything else. -/
def numericPart (name : List Char) : List Char :=
  (name.dropWhile fun c => !Numeral.isDigit c).takeWhile fun c =>
    Numeral.isDigit c || c == '.'

/-- The series that follows the marker in a name.  Digits without a dot are
the major number, one digit long, and the minor number. -/
def ofName (root : String) (name : List Char) : Except Fault Version :=
  let numeric := numericPart name
  if numeric.contains '.' then parse (String.ofList numeric)
  else
    match numeric with
    | [] => .error (.absent root)
    | [digit] => .ok ⟨UInt32.ofNat (Numeral.digitValue digit), none⟩
    | digit :: more =>
      match Numeral.word32? more with
      | some minor => .ok ⟨UInt32.ofNat (Numeral.digitValue digit), some minor⟩
      | none => .error (.absent root)

/-- The series that a text of a root names. -/
def ofRootText (root : String) : Except Fault Version :=
  match afterMarker? root.toList with
  | none => .error (.absent root)
  | some rest => ofName root (rest.takeWhile fun c => !isSeparator c)

/-- The series that the path of an installation names. -/
def ofRoot (root : Path) : Except Fault Version :=
  ofRootText root.display

/-! ## Canonical numbers -/

/-- A product of 32 bits. -/
def product (a b : UInt32) : Except Overflow UInt32 :=
  if a.toNat * b.toNat < UInt32.size then .ok (a * b) else .error .multiply

/-- A sum of 32 bits. -/
def sum (a b : UInt32) : Except Overflow UInt32 :=
  if a.toNat + b.toNat < UInt32.size then .ok (a + b) else .error .add

theorem product_eq_ok_iff {a b c : UInt32} :
    product a b = .ok c ↔ c.toNat = a.toNat * b.toNat := by
  unfold product
  split
  · next fits =>
    have value : (a * b).toNat = a.toNat * b.toNat := by
      rw [UInt32.toNat_mul, Nat.mod_eq_of_lt fits]
    rw [Except.ok.injEq, ← UInt32.toNat_inj, value]
    exact eq_comm
  · next large =>
    refine iff_of_false nofun fun same => large ?_
    rw [← same]
    exact c.toNat_lt

theorem sum_eq_ok_iff {a b c : UInt32} : sum a b = .ok c ↔ c.toNat = a.toNat + b.toNat := by
  unfold sum
  split
  · next fits =>
    have value : (a + b).toNat = a.toNat + b.toNat := by
      rw [UInt32.toNat_add, Nat.mod_eq_of_lt fits]
    rw [Except.ok.injEq, ← UInt32.toNat_inj, value]
    exact eq_comm
  · next large =>
    refine iff_of_false nofun fun same => large ?_
    rw [← same]
    exact c.toNat_lt

/-- The first scale above a minor number.  A scale that is not above it is
followed by the one that is ten times as large. -/
def scaleFrom (minor scale : UInt32) (positive : 0 < scale.toNat) : Except Overflow UInt32 :=
  if minor < scale then .ok scale
  else
    match grown : product scale 10 with
    | .error o => .error o
    | .ok next =>
      have ten : next.toNat = scale.toNat * 10 := product_eq_ok_iff.1 grown
      scaleFrom minor next (by omega)
termination_by UInt32.size - scale.toNat
decreasing_by
  have small : scale.toNat < UInt32.size := scale.toNat_lt
  omega

/-- The digits of the major number followed by those of the minor number. -/
def canonical (v : Version) : Except Overflow UInt32 :=
  match v.minor with
  | none => .ok v.major
  | some minor => do
    let scale ← scaleFrom minor 10 (by decide)
    let shifted ← product v.major scale
    sum shifted minor

/-! ## Comparison -/

/-- An absent number comes before any other. -/
def compareMinor : Option UInt32 → Option UInt32 → Ordering
  | none, none => .eq
  | none, some _ => .lt
  | some _, none => .gt
  | some a, some b => compare a b

/-- By major number, then by minor number. -/
instance : Ord Version where
  compare a b := (compare a.major b.major).then (compareMinor a.minor b.minor)

/-- An interpreter of the series `engine` belongs to the series `v`. -/
def covers (v engine : Version) : Bool :=
  v.major == engine.major && (v.minor.isNone || v.minor == engine.minor)

end Version

end EmbeddedPython
