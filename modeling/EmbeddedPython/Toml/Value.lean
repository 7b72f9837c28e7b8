/-!
# TOML documents

A TOML document is a table: names with values, in the order they came.  The
kind of a table says how it came to be, and with that how it may still grow.
This module holds the values and the three ways in which a document grows:

* `Entries.insertValue` gives a value to a dotted key;
* `Entries.insertTable` opens a table by its header;
* `Entries.insertElement` opens an element of an array of tables.

Each is `none` where the document may not grow that way, so no name is ever
given two values.
-/

namespace EmbeddedPython.Toml

/-- How a table came to be. -/
inductive TableKind where
  /-- Written between braces, and complete. -/
  | inline
  /-- Opened by its own header. -/
  | explicit
  /-- On the way to a header. -/
  | implicit
  /-- On the way to a dotted key. -/
  | dotted
deriving Repr, DecidableEq

/-- A value. -/
inductive Value where
  | string (s : String)
  | integer (n : Int)
  /-- A number with a fraction or an exponent, by its text. -/
  | float (text : String)
  | boolean (b : Bool)
  /-- A date, a time or both, by its text. -/
  | dateTime (text : String)
  | array (items : List Value)
  | table (kind : TableKind) (entries : List (String × Value))
  /-- An array whose elements are opened by headers. -/
  | tables (elements : List (List (String × Value)))
deriving Repr, Inhabited

/-- The names of a table with their values. -/
abbrev Entries := List (String × Value)

namespace Entries

/-- The value of a name. -/
def get? (es : Entries) (name : String) : Option Value :=
  es.lookup name

/-- The entries with another value for a name that has one. -/
def replace (es : Entries) (name : String) (v : Value) : Entries :=
  es.map fun entry => if entry.1 = name then (name, v) else entry

/-- The entries with a name behind all others. -/
def add (es : Entries) (name : String) (v : Value) : Entries :=
  es ++ [(name, v)]

/-- A step on the way to a table. -/
inductive Way where
  /-- To the name of a header. -/
  | header
  /-- To a dotted key, with more parts behind. -/
  | dotted
  /-- To the table that a dotted key goes into. -/
  | dottedLast
deriving Repr, DecidableEq

/-- The tables that a way may lead into.  A way to a header leads into any
table that is not complete.  A dotted key never leads into a table that a
header opened, and it ends in a table that dotted keys made. -/
def Way.admits (way : Way) (kind : TableKind) : Bool :=
  match way with
  | header => kind != .inline
  | dotted => kind == .implicit || kind == .dotted
  | dottedLast => kind == .dotted

/-- The way may lead into the last element of an array of tables. -/
def Way.admitsElement (way : Way) : Bool :=
  way != .dottedLast

/-- The kind of the tables that a way makes. -/
def Way.makes (way : Way) : TableKind :=
  match way with
  | header => .implicit
  | dotted | dottedLast => .dotted

/-- The value of a table or of an array of tables, with the innermost open
table changed. -/
def within (way : Way) (change : Entries → Option Entries) : Value → Option Value
  | .table kind entries =>
    if way.admits kind then (change entries).map (Value.table kind) else none
  | .tables elements =>
    match elements.getLast? with
    | some last =>
      if way.admitsElement then
        (change last).map fun e => .tables (elements.dropLast ++ [e])
      else none
    | none => none
  | _ => none

/-- The entries with the table of a name changed.  A name without a value
gets a table. -/
def descend (way : Way) (name : String) (change : Entries → Option Entries) (es : Entries) :
    Option Entries :=
  match es.get? name with
  | none => (change []).map fun entries => es.add name (.table way.makes entries)
  | some v => (within way change v).map (es.replace name)

/-- The entries with a change in the table at a path of headers. -/
def atHeader (change : Entries → Option Entries) : List String → Entries → Option Entries
  | [], es => change es
  | name :: path, es => descend .header name (atHeader change path) es

/-- The entries with a change in the table at a path of dotted keys. -/
def atDotted (change : Entries → Option Entries) : List String → Entries → Option Entries
  | [], es => change es
  | [name], es => descend .dottedLast name change es
  | name :: path, es => descend .dotted name (atDotted change path) es

/-- The entries with a value for a new name. -/
def addNew (name : String) (v : Value) (es : Entries) : Option Entries :=
  match es.get? name with
  | some _ => none
  | none => some (es.add name v)

/-- The entries with a value for a dotted key. -/
def insertValue (path : List String) (name : String) (v : Value) : Entries → Option Entries :=
  atDotted (addNew name v) path

/-- The entries with a table for a name: a new one, or one that was only on
the way to a header so far. -/
def openTable (name : String) (es : Entries) : Option Entries :=
  match es.get? name with
  | none => some (es.add name (.table .explicit []))
  | some (.table .implicit entries) => some (es.replace name (.table .explicit entries))
  | some _ => none

/-- The entries after a header of a table. -/
def insertTable (path : List String) (name : String) : Entries → Option Entries :=
  atHeader (openTable name) path

/-- The entries with one more element in the array of tables of a name. -/
def openElement (name : String) (es : Entries) : Option Entries :=
  match es.get? name with
  | none => some (es.add name (.tables [[]]))
  | some (.tables elements) => some (es.replace name (.tables (elements ++ [[]])))
  | some _ => none

/-- The entries after a header of an element. -/
def insertElement (path : List String) (name : String) : Entries → Option Entries :=
  atHeader (openElement name) path

end Entries

end EmbeddedPython.Toml
