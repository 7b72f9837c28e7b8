import EmbeddedPython.Value

/-!
# Constants

What a program holds as it is written.  A function or a module belongs to a
namespace, which no text can name, so there is neither in a `Constant`, nor in the
values of a function that a program defines by its behaviour (`Routine`).
-/

namespace EmbeddedPython

namespace Value

mutual

/-- Nothing in the value belongs to a namespace. -/
def isInert : Value → Bool
  | list items | tuple items => areInert items
  | derived _ base => base.isInert
  | function _ _ _ | module _ => false
  | _ => true

/-- The same for values in a row. -/
def areInert : List Value → Bool
  | [] => true
  | v :: rest => v.isInert && areInert rest

end

end Value

/-- The values that the behaviour comes with belong to no namespace. -/
def Behaviour.isInert : Behaviour Value → Bool
  | constant v | emit v => v.isInert
  | _ => true

/-- A value that a program may hold. -/
structure Constant where
  value : Value
  inert : value.isInert
deriving Repr

instance : Inhabited Constant := ⟨⟨.none, rfl⟩⟩

/-- The constant that a value is. -/
def Constant.ofValue? (v : Value) : Option Constant :=
  if inert : v.isInert then some ⟨v, inert⟩ else none

/-- What a function does that a program may define by its behaviour. -/
structure Routine where
  behaviour : Behaviour Value
  inert : behaviour.isInert
deriving Repr

instance : Inhabited Routine := ⟨⟨.nothing, rfl⟩⟩

/-- The routine that a behaviour is. -/
def Routine.ofBehaviour? (behaviour : Behaviour Value) : Option Routine :=
  if inert : behaviour.isInert then some ⟨behaviour, inert⟩ else none

end EmbeddedPython
