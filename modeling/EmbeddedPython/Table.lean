import EmbeddedPython.Cell
import EmbeddedPython.Value.Date

/-!
# Parameter tables

Parameters of a call come as a table of named, typed columns.  Only the
first row is ever used: its cells are the positional arguments.

* `Table.ofRow`, `Table.addColumn`, `Table.pushRow` and `Table.addRow` build
  tables.  A row is as wide as the table is when the row is added.
* `Table.argumentRow` checks the first row, and `Table.arguments` turns it
  into values of the interpreter.
* `Table.convert` has the interpreter make the value of a cell, which it may
  refuse to do.
-/

namespace EmbeddedPython

/-- A named and typed column. -/
structure Column where
  name : String
  type : ColumnType
deriving Repr, DecidableEq

/-- A table of parameters. -/
structure Table where
  columns : List Column
  rows : List (List Cell)
deriving Repr, DecidableEq

namespace Table

/-- Why a table has no arguments, or does not take a row. -/
inductive Fault where
  /-- A row of another width than the columns. -/
  | width (values columns : Nat)
  /-- A column whose type has no conversion. -/
  | unconvertible (column type : String)
  /-- A cell that its column does not take. -/
  | mistyped (column : String) (type : ColumnType) (cell : Cell)
  /-- A date in a year that the interpreter has no dates in. -/
  | outsideYears (column : String) (date : DateTime)
deriving Repr, DecidableEq

/-- What is said about a fault. -/
def Fault.message : Fault → String
  | width values columns =>
    "row has " ++ Numeral.text values ++ " values but the table has "
      ++ Numeral.text columns ++ " columns"
  | unconvertible column type =>
    "column '" ++ column ++ "' has type " ++ type ++ " with no Python conversion"
  | mistyped column type cell =>
    "column '" ++ column ++ "' is declared " ++ type.quoted ++ " but holds " ++ cell.quoted
  | outsideYears column date =>
    "column '" ++ column ++ "' holds " ++ date.display
      ++ ", outside Python's datetime range"

/-! ## Building tables -/

/-- The table without columns and rows. -/
def empty : Table := ⟨[], []⟩

/-- The table with one row, and with columns of the types of its cells. -/
def ofRow (cells : List (String × Cell)) : Table :=
  ⟨cells.map fun (name, cell) => ⟨name, cell.columnType⟩, [cells.map Prod.snd]⟩

/-- The table with one more column.  Rows stay as they are. -/
def addColumn (t : Table) (name : String) (type : ColumnType) : Table :=
  { t with columns := t.columns ++ [⟨name, type⟩] }

/-- A row as wide as a table. -/
def checkWidth (t : Table) (row : List Cell) : Except Fault Unit :=
  if row.length = t.columns.length then .ok ()
  else .error (.width row.length t.columns.length)

/-- Adds a row in place. -/
def pushRow (row : List Cell) : ExceptT Fault (StateM Table) Unit := do
  ExceptT.mk (return (← get).checkWidth row)
  modify fun t => { t with rows := t.rows ++ [row] }

/-- The table with one more row. -/
def addRow (t : Table) (row : List Cell) : Except Fault Table :=
  let (added, t) := (pushRow row).run.run t
  added.map fun _ => t

/-! ## Arguments -/

/-- The years that the interpreter has dates in. -/
def isYear (year : Int) : Bool :=
  1 ≤ year && year ≤ 9999

/-- A cell that is an argument for its column. -/
def checkCell (column : Column) (cell : Cell) : Except Fault Unit :=
  match column.type with
  | .object type => .error (.unconvertible column.name type)
  | type =>
    if cell.fits type then
      match cell with
      | .dateTime t =>
        if isYear t.year then .ok () else .error (.outsideYears column.name t)
      | _ => .ok ()
    else .error (.mistyped column.name type cell)

/-- The first cell of a row that is no argument decides. -/
def checkCells : List Column → List Cell → Except Fault Unit
  | column :: columns, cell :: cells => do
    checkCell column cell
    checkCells columns cells
  | _, _ => .ok ()

/-- The first row, if it can be used. -/
def argumentRow (t : Table) : Except Fault (Option (List Cell)) :=
  match t.rows with
  | [] => .ok none
  | row :: _ => do
    t.checkWidth row
    checkCells t.columns row
    return some row

/-- What the log says about rows that are not used. -/
def unusedRows? (t : Table) : Option String :=
  if t.rows.length > 1 then
    some ("Only the first of " ++ Numeral.text t.rows.length ++ " parameter rows is used")
  else none

/-- The largest number of microseconds below a second. -/
def lastMicrosecond : Nat := 999999

/-- The moment of the interpreter for a date of the host.  Digits below a
microsecond are dropped, and a leap second ends in the last microsecond. -/
def momentOf (t : DateTime) : Moment :=
  .ofNumbers t.year t.month t.day t.hour t.minute t.second
    (min (t.nanosecond / 1000) lastMicrosecond : Nat)

/-- The value of the interpreter for a cell. -/
def valueOf : Cell → Value
  | .null => .none
  | .bool b => .bool b
  | .int n => .int n.toInt
  | .float x => .float x
  | .text s => .str s
  | .bytes octets => .bytes octets
  | .dateTime t => .dateTime (momentOf t)

/-- The value that the interpreter makes of a cell.  Its constructor of dates does
not take every date. -/
def convert : Cell → Except Raised Value
  | .dateTime t =>
    (Moment.make t.year t.month t.day t.hour t.minute t.second
      (min (t.nanosecond / 1000) lastMicrosecond : Nat)).map .dateTime
  | c => .ok (valueOf c)

/-- The arguments of a call: none from a table without rows. -/
def arguments (t : Table) : Except Fault (List Value) := do
  let row ← t.argumentRow
  return (row.getD []).map valueOf

/-! ## Text -/

/-- The text that shows a column. -/
def quotedColumn (column : Column) : String :=
  "Column \x7b name: " ++ Quoted.double column.name ++ ", kind: "
    ++ column.type.quoted ++ " \x7d"

/-- The text that shows a table. -/
def quoted (t : Table) : String :=
  "TabularParameters \x7b columns: " ++ Cell.bracketed (t.columns.map quotedColumn)
    ++ ", rows: "
    ++ Cell.bracketed (t.rows.map fun row => Cell.bracketed (row.map Cell.quoted))
    ++ " \x7d"

end Table

end EmbeddedPython
