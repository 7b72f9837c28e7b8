import EmbeddedPython.Engine.Exception
import EmbeddedPython.Engine.State

/-!
# Frames

A `Frame` is what statements run in: a namespace of globals and, inside of a
function, the names that belong to the call.  These have a namespace of their
own for as long as the call lasts.

A name that belongs to the call is looked up nowhere else.  All others are
looked up among the globals and then among the names bound everywhere.
-/

namespace EmbeddedPython

/-- The names that belong to a call, and the namespace that holds them. -/
structure Locals where
  space : Home
  names : List String
deriving Repr, Inhabited

/-- What statements run in. -/
structure Frame where
  home : Home
  locals : Option Locals
  /-- The exception that is being handled. -/
  handled : Option Raised
deriving Repr, Inhabited

namespace Frame

/-- The frame of a program. -/
def ofHome (home : Home) : Frame := ⟨home, none, none⟩

/-- The namespace that a name belongs to. -/
def homeOf (f : Frame) (name : String) : Home :=
  match f.locals with
  | some locals => if locals.names.contains name then locals.space else f.home
  | none => f.home

/-- A name belongs to the call. -/
def isLocal (f : Frame) (name : String) : Bool :=
  (f.locals.map fun locals => locals.names.contains name).getD false

end Frame

/-- A name of a call that is not bound yet. -/
def Raised.unboundLocal (name : String) : Raised :=
  ⟨"UnboundLocalError",
    "cannot access local variable '" ++ name ++ "' where it is not associated with a value"⟩

namespace Run

/-- The value of a name that is read in a namespace. -/
def lookUp (home : Home) (name : String) : Run Value := do
  match (← engine).resolve? home name with
  | some v => return v
  | none => throw (.unbound name)

/-- The value of a name in a frame. -/
def readName (f : Frame) (name : String) : Run Value := do
  if f.isLocal name then
    match (← engine).global? (f.homeOf name) name with
    | some v => return v
    | none => throw (.unboundLocal name)
  else lookUp f.home name

/-- Binds a name in a frame. -/
def bindName (f : Frame) (name : String) (v : Value) : Run Unit :=
  change (·.bindName (f.homeOf name) name v)

/-- Unbinds a name in a frame. -/
def deleteName (f : Frame) (name : String) : Run Unit := do
  if ((← engine).global? (f.homeOf name) name).isNone then
    throw (if f.isLocal name then .unboundLocal name else .unbound name)
  change (·.unbind (f.homeOf name) name)

end Run

end EmbeddedPython
