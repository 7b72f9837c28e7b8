import EmbeddedPython.Double
import EmbeddedPython.Text.Octets

/-!
# Values of the interpreter

`Value` is what a Python program computes with, as far as the host can
tell values apart: by their type name, by what they convert to, and by
what happens when they are called or looked into.

* A value of a built-in type is given by its content.
* `derived` is an instance of a subclass: it has a type name of its own and
  counts as its base everywhere else.
* `numeric` is an object that no built-in number is a base of, but that
  offers conversions to numbers.
* A function or a module belongs to a namespace of the interpreter, which a
  `Home` names.
* `type` and `builtin` are the types and the functions of the interpreter
  itself, by their names.
* `exception` is an instance of a type of exceptions.
* `object` is any other value.

A date in a time zone is a `derived` one whose type has the name of its base:
it converts like the date, but is not shown as one.
-/

namespace EmbeddedPython

/-- An exception: the name of its type and the text that tells of it. -/
structure Raised where
  kind : String
  text : String
deriving Repr, DecidableEq, Inhabited

/-- The namespace that a function or a module belongs to: the globals of a
scope or of a module. -/
structure Home where
  index : Nat
deriving Repr, DecidableEq, Inhabited

/-- A method that a type may have. -/
inductive Method (α : Type) where
  | absent
  | raises
  | returns (result : α)
deriving Repr, DecidableEq

/-- What reading an attribute of a date gives. -/
inductive Attribute where
  | number (n : Int)
  /-- A value that is no number. -/
  | text
  | raises (kind : String)
deriving Repr, DecidableEq

/-- The attributes of a date and time. -/
structure Moment where
  year : Attribute
  month : Attribute
  day : Attribute
  hour : Attribute
  minute : Attribute
  second : Attribute
  microsecond : Attribute
deriving Repr, DecidableEq

/-- The date and time whose attributes are numbers. -/
def Moment.ofNumbers (year month day hour minute second microsecond : Int) : Moment :=
  ⟨.number year, .number month, .number day, .number hour, .number minute,
    .number second, .number microsecond⟩

/-- What a function does when it is called, over the values `V`. -/
inductive Behaviour (V : Type) where
  /-- Returns the tuple of its arguments. -/
  | arguments
  /-- Returns the list of its arguments. -/
  | argumentList
  /-- Returns how many arguments it got. -/
  | count
  /-- Returns the type names of its arguments. -/
  | typeNames
  | nothing
  /-- Returns the name of the namespace it was defined in. -/
  | homeName
  /-- Returns one argument, counted from the end if negative. -/
  | argument (index : Int)
  | constant (v : V)
  | emit (v : V)
  /-- Raises an exception of a type, with a text if there is one. -/
  | raising (kind : String) (text : Option String)
  /-- Returns a global of its namespace. -/
  | global (name : String)
  /-- Calls a function of its namespace with the same arguments. -/
  | call (name : String)
  /-- Adds one to a global of its namespace, in place where the value can be
  changed, and returns the sum. -/
  | increment (name : String)
  /-- Binds a global of its namespace to the sum of it and one, and returns the
  sum. -/
  | rebind (name : String)
  /-- Takes exactly two arguments and returns them. -/
  | pair
  /-- Runs the code with this number among those that the interpreter has. -/
  | code (index : Nat)
deriving Repr

/-- A value of the interpreter. -/
inductive Value where
  | none
  | bool (b : Bool)
  | int (n : Int)
  | float (x : Double)
  | str (s : String)
  /-- A string that holds half of a surrogate pair. -/
  | brokenStr
  | bytes (octets : Octets)
  | byteArray (octets : Octets)
  | list (items : List Value)
  | tuple (items : List Value)
  | dateTime (moment : Moment)
  | derived (typeName : String) (base : Value)
  | numeric (typeName : String) (index : Method Int) (float : Method Double)
  | function (name : String) (behaviour : Behaviour Value) (home : Home)
  | module (home : Home)
  | type (name : String)
  | builtin (name : String)
  | exception (e : Raised)
  | object (typeName : String)
deriving Repr, Inhabited

namespace Value

/-- The name of the type of a value. -/
def typeName : Value → String
  | none => "NoneType"
  | bool _ => "bool"
  | int _ => "int"
  | float _ => "float"
  | str _ | brokenStr => "str"
  | bytes _ => "bytes"
  | byteArray _ => "bytearray"
  | list _ => "list"
  | tuple _ => "tuple"
  | dateTime _ => "datetime"
  | derived name _ | numeric name _ _ | object name => name
  | function _ _ _ => "function"
  | module _ => "module"
  | type _ => "type"
  | builtin _ => "builtin_function_or_method"
  | exception e => e.kind

/-- The built-in value that a value counts as. -/
def core : Value → Value
  | derived _ base => base.core
  | v => v

/-- Nothing, which is a value as well. -/
def isNone (v : Value) : Bool :=
  match v.core with
  | none => true
  | _ => false

/-- The items of a list or a tuple. -/
def items? (v : Value) : Option (List Value) :=
  match v.core with
  | list items | tuple items => some items
  | _ => Option.none

/-- The items of a tuple. -/
def tupleItems? (v : Value) : Option (List Value) :=
  match v.core with
  | tuple items => some items
  | _ => Option.none

/-- The integer that a value stands for where an integer is asked for. -/
def index? (v : Value) : Option Int :=
  match v.core with
  | int n => some n
  | bool b => some (if b then 1 else 0)
  | numeric _ (.returns n) _ => some n
  | _ => Option.none

/-- The double that a value stands for where a double is asked for.  A
conversion to a double goes before one to an integer. -/
def real? (v : Value) : Option Double :=
  match v.core with
  | float x => some x
  | numeric _ _ (.returns x) => some x
  | numeric _ _ .raises => Option.none
  | _ => v.index?.bind Double.ofInt?

mutual

/-- The type name of the part of a value that keeps it from being a key of
a dictionary. -/
def unhashable? : Value → Option String
  | byteArray _ => some "bytearray"
  | list _ => some "list"
  | tuple items => unhashableItem? items
  | derived name base =>
    if base.typeName = "tuple" then unhashable? base
    else (unhashable? base).map fun _ => name
  | object name =>
    if name = "dict" || name = "set" then some name else Option.none
  | _ => Option.none

/-- The same for the first such item. -/
def unhashableItem? : List Value → Option String
  | [] => Option.none
  | v :: rest => (unhashable? v).or (unhashableItem? rest)

end

end Value

end EmbeddedPython
