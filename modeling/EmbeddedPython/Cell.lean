import EmbeddedPython.Calendar
import EmbeddedPython.Double.Text
import EmbeddedPython.Text.Octets
import EmbeddedPython.Text.Quoted

/-!
# Cells and column types

A cell is a value of the host, and a column type is what a column of a
parameter table says about its cells.  A null cell belongs to every column
type that has a conversion, and is itself typed as text.
-/

namespace EmbeddedPython

/-- What a column holds. -/
inductive ColumnType where
  | bool
  | int
  | float
  | text
  | bytes
  | dateTime
  /-- A type of the host that has no conversion. -/
  | object (name : String)
deriving Repr, DecidableEq

/-- A value of the host. -/
inductive Cell where
  | null
  | bool (b : Bool)
  | int (n : Int64)
  | float (x : Double)
  | text (s : String)
  | bytes (octets : Octets)
  | dateTime (t : DateTime)
deriving Repr, DecidableEq

namespace ColumnType

/-- The text that shows a column type. -/
def quoted : ColumnType → String
  | bool => "Bool"
  | int => "Int"
  | float => "Float"
  | text => "Text"
  | bytes => "Bytes"
  | dateTime => "DateTime"
  | object name => "Object(" ++ Quoted.double name ++ ")"

end ColumnType

namespace Cell

/-- The column type of a cell. -/
def columnType : Cell → ColumnType
  | null => .text
  | bool _ => .bool
  | int _ => .int
  | float _ => .float
  | text _ => .text
  | bytes _ => .bytes
  | dateTime _ => .dateTime

/-- A cell that a column of the type `type` may hold. -/
def fits (c : Cell) (type : ColumnType) : Bool :=
  c == null || c.columnType == type

/-- Values between brackets, with commas between them. -/
def bracketed (items : List String) : String :=
  "[" ++ String.intercalate ", " items ++ "]"

/-- The text that shows a cell. -/
def quoted : Cell → String
  | null => "Null"
  | bool b => if b then "Bool(true)" else "Bool(false)"
  | int n => "Int(" ++ Numeral.signed n.toInt ++ ")"
  | float x => "Float(" ++ x.text ++ ")"
  | text s => "Text(" ++ Quoted.double s ++ ")"
  | bytes octets =>
    "Bytes(" ++ bracketed (octets.map fun b => Numeral.text b.toNat) ++ ")"
  | dateTime t => "DateTime(" ++ t.quoted ++ ")"

end Cell

end EmbeddedPython
