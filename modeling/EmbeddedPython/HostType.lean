import EmbeddedPython.Cell
import EmbeddedPython.Value

/-!
# Types of the host and conversion into them

A result of the interpreter is asked for as a `HostType`.  The type says
what the answer is (`HostType.Carrier`), and `HostType.read` either gives
the answer or names the node of the value that does not fit: the first one
from the outside in and from left to right.

A conversion fails in one of two ways.  `Misfit.cast` names the type that
was asked for and the type of the value that was found.  `Misfit.raised` is
an exception that reading an attribute of a date brought up.
-/

namespace EmbeddedPython

/-- A type that results are converted into. -/
inductive HostType where
  | unit
  | bool
  | int32
  | int64
  | float
  | text
  | bytes
  | dateTime
  | cell
  | option (t : HostType)
  | list (t : HostType)
  | pair (a b : HostType)
  | triple (a b c : HostType)
deriving Repr, DecidableEq

namespace HostType

/-- The values of a type. -/
def Carrier : HostType → Type
  | unit => Unit
  | bool => Bool
  | int32 => Int32
  | int64 => Int64
  | float => Double
  | text => String
  | bytes => Octets
  | dateTime => DateTime
  | cell => Cell
  | option t => Option t.Carrier
  | list t => List t.Carrier
  | pair a b => a.Carrier × b.Carrier
  | triple a b c => a.Carrier × b.Carrier × c.Carrier

/-- The full name of a type, as messages write it. -/
def fullName : HostType → String
  | unit => "()"
  | bool => "bool"
  | int32 => "i32"
  | int64 => "i64"
  | float => "f64"
  | text => "alloc::string::String"
  | bytes => "alloc::vec::Vec<u8>"
  | dateTime => "chrono::naive::datetime::NaiveDateTime"
  | cell => "pyhost_bridge::marshal::HostValue"
  | option t => "core::option::Option<" ++ t.fullName ++ ">"
  | list t => "alloc::vec::Vec<" ++ t.fullName ++ ">"
  | pair a b => "(" ++ a.fullName ++ ", " ++ b.fullName ++ ")"
  | triple a b c => "(" ++ a.fullName ++ ", " ++ b.fullName ++ ", " ++ c.fullName ++ ")"

end HostType

/-- Why a value has no form in a type of the host. -/
inductive Misfit where
  /-- A value of the type named `found` is no `target`. -/
  | cast (target : HostType) (found : String)
  /-- Reading an attribute raised an exception of this type. -/
  | raised (kind : String)
deriving Repr, DecidableEq

namespace HostType

/-- What is known when a value is no `t`. -/
def misfit (t : HostType) (v : Value) : Misfit :=
  .cast t v.typeName

/-- An optional answer, or the misfit of a value and a type. -/
def require {α : Type} (t : HostType) (v : Value) : Option α → Except Misfit α
  | some a => .ok a
  | none => .error (t.misfit v)

/-! ## Leaves -/

/-- Only a boolean is one. -/
def readBool? (v : Value) : Option Bool :=
  match v.core with
  | .bool b => some b
  | _ => none

/-- An integer of 32 bits. -/
def readInt32? (v : Value) : Option Int32 :=
  v.index?.bind fun n =>
    if Int32.minValue.toInt ≤ n && n ≤ Int32.maxValue.toInt then some (Int32.ofInt n)
    else none

/-- An integer of 64 bits. -/
def readInt64? (v : Value) : Option Int64 :=
  v.index?.bind fun n =>
    if Int64.minValue.toInt ≤ n && n ≤ Int64.maxValue.toInt then some (Int64.ofInt n)
    else none

/-- A text without halves of surrogate pairs. -/
def readText? (v : Value) : Option String :=
  match v.core with
  | .str s => some s
  | _ => none

/-- The octets of either kind of octet string. -/
def readBytes? (v : Value) : Option Octets :=
  match v.core with
  | .bytes o | .byteArray o => some o
  | _ => none

/-! ## Dates -/

/-- The integer of an attribute, or the type of the exception that keeps it
from being read as an integer from `low` to `high`. -/
def attributeIn (low high : Int) : Attribute → Except String Int
  | .number n => if low ≤ n && n ≤ high then .ok n else .error "OverflowError"
  | .text => .error "TypeError"
  | .raises kind => .error kind

/-- A year: an integer of 32 bits. -/
def yearOf (a : Attribute) : Except String Int :=
  attributeIn Int32.minValue.toInt Int32.maxValue.toInt a

/-- Any other part: a number of 32 bits. -/
def partOf (a : Attribute) : Except String Nat :=
  (attributeIn 0 (UInt32.size - 1) a).map Int.toNat

/-- The day and time of some attributes.  The date is read first, and an
exception there is passed on.  `none` stands for attributes that make up no
day, and for a time of day that cannot be read or does not exist. -/
def readMoment (m : Moment) : Except String (Option DateTime) := do
  let year ← yearOf m.year
  let month ← partOf m.month
  let day ← partOf m.day
  let time := do
    let hour ← partOf m.hour
    let minute ← partOf m.minute
    let second ← partOf m.second
    let microsecond ← partOf m.microsecond
    return DateTime.of? year month day hour minute second (microsecond * 1000)
  return time.toOption.join

/-- A date with a time. -/
def readDateTime (v : Value) : Except Misfit DateTime :=
  match v.core with
  | .dateTime m =>
    match readMoment m with
    | .ok t => require .dateTime v t
    | .error kind => .error (.raised kind)
  | _ => .error (misfit .dateTime v)

/-! ## Cells -/

/-- The cell of a value.  A value of a built-in type is read as that type,
so a misfit names it.  All others have to be dates. -/
def readCell (v : Value) : Except Misfit Cell :=
  match v.core with
  | .none => .ok .null
  | .bool b => .ok (.bool b)
  | .int _ => (require .int64 v (readInt64? v)).map .int
  | .float x => .ok (.float x)
  | .str s => .ok (.text s)
  | .brokenStr => .error (misfit .text v)
  | .bytes o | .byteArray o => .ok (.bytes o)
  | _ =>
    match readDateTime v with
    | .ok t => .ok (.dateTime t)
    | .error _ => .error (misfit .cell v)

/-! ## All types -/

/-- The value as a value of the host type `t`, or the first misfit. -/
def read : (t : HostType) → Value → Except Misfit t.Carrier
  | unit, v => if v.isNone then .ok () else .error (misfit .unit v)
  | bool, v => require .bool v (readBool? v)
  | int32, v => require .int32 v (readInt32? v)
  | int64, v => require .int64 v (readInt64? v)
  | float, v => require .float v v.real?
  | text, v => require .text v (readText? v)
  | bytes, v => require .bytes v (readBytes? v)
  | dateTime, v => readDateTime v
  | cell, v => readCell v
  | option t, v => if v.isNone then .ok none else (read t v).map some
  | list t, v =>
    match v.items? with
    | some items => items.mapM (read t)
    | none => .error (misfit (list t) v)
  | pair a b, v =>
    match v.tupleItems? with
    | some [x, y] => do
      let x ← read a x
      let y ← read b y
      return (x, y)
    | _ => .error (misfit (pair a b) v)
  | triple a b c, v =>
    match v.tupleItems? with
    | some [x, y, z] => do
      let x ← read a x
      let y ← read b y
      let z ← read c z
      return (x, y, z)
    | _ => .error (misfit (triple a b c) v)

end HostType

end EmbeddedPython
