import EmbeddedPython.Work

/-!
# Scopes

A `Scope` is a namespace of its own that programs run in.  Nothing that is
bound in one scope is visible in another one, unless `Scope.importScope`
binds a copy of its names as a module.

* `Scope.run` compiles and runs a program in a scope.
* `Scope.execute` runs a program in a scope that is gone afterwards.
* `Scope.callNamed` runs a program in one scope and calls a function of it
  from another one.  The function works on the names of the first scope, not
  on their copy.
-/

namespace EmbeddedPython

/-- A namespace for programs, with the name that errors give it. -/
structure Scope where
  name : String
  home : Home
deriving Repr, DecidableEq

namespace Scope

/-- The name of a scope that got none. -/
def anonymousName : String := "<scope>"

/-- The name of the scope that functions are defined in. -/
def definitionName : String := "<definition>"

/-- The name of the scope that functions are called from. -/
def callName : String := "<call>"

/-- The name that the defining scope has in the calling one. -/
def definitionAlias : String := "ds"

/-! ## Making scopes -/

/-- The names of a new scope. -/
def initialNames (name : String) : Namespace :=
  .ofList [("__builtins__", .module Engine.everywhere), ("__name__", .str name)]

/-- A new scope. -/
def create (name : String) : Work Scope :=
  .ofRun .python do
    let home ← Run.allocate (initialNames name)
    return ⟨name, home⟩

/-- A new scope without a name of its own. -/
def anonymous : Work Scope :=
  create anonymousName

/-- Work with a new scope that is gone afterwards. -/
def within {α : Type} (name : String) (w : Scope → Work α) : Work α := do
  let scope ← create name
  .releasing scope.home (w scope)

/-! ## Programs -/

/-- What keeps a name of a scope from being used in a compilation. -/
def nameFault? (name : String) : Option Raised :=
  if name.toList.contains (Char.ofNat 0) then some ⟨"ValueError", "embedded null byte"⟩
  else none

/-- The statements of a source in a scope of some name. -/
def compile (source : Source) (name : String) : Except HostError (List Statement) :=
  match nameFault? name with
  | some e => .error (.compilation name e.line)
  | none =>
    match source.compile with
    | .ok program => .ok program
    | .error fault => .error (.compilation name fault.raised.line)

/-- The error of an exception in a scope. -/
def interrupted (scope : Scope) (e : Raised) : HostError :=
  .execution scope.name e.line

/-- Binds the names that are bound everywhere, unless they are. -/
def bindEverywhere (scope : Scope) : Run Unit := do
  if ((← Run.engine).global? scope.home "__builtins__").isNone then
    Run.change (·.bindName scope.home "__builtins__" (.object "dict"))

/-- Compiles a source and then runs it in a scope. -/
def run (scope : Scope) (source : Source) : Work Unit := do
  let program ← .ofExcept (compile source scope.name)
  .ofRun scope.interrupted do
    scope.bindEverywhere
    Run.runProgram scope.home program

/-- The value of a name in a scope. -/
def get? (scope : Scope) (name : String) : Work (Option Value) := do
  return (← Work.engine).global? scope.home name

/-! ## Names of other scopes -/

/-- A name that the interpreter keeps for itself: longer than four octets,
with two underscores at either end. -/
def isReserved (name : String) : Bool :=
  4 < name.utf8ByteSize && "__".toList.isPrefixOf name.toList
    && "__".toList.isSuffixOf name.toList

/-- The entries without those of reserved names.  All keys have to be texts. -/
def crossing : List (Key × Value) → Except Raised (List (Key × Value))
  | [] => .ok []
  | (key, v) :: rest => do
    let name ← key.text
    let more ← crossing rest
    return if isReserved name then more else (key, v) :: more

/-- The names of a module that has no program. -/
def moduleNames (name : String) : List (Key × Value) :=
  [(.name "__name__", .str name), (.name "__doc__", .none), (.name "__package__", .none),
    (.name "__loader__", .none), (.name "__spec__", .none)]

/-- Binds a copy of the names of another scope as a module, and gives the
home of the copy. -/
def importScope (scope other : Scope) (localName : String) : Work Home := do
  let names := ((← Work.engine).space? other.home).getD .empty
  .ofRun .python do
    let copied ← Run.ofExcept (crossing names.entries)
    let keyTypes := names.keyTypes.filter fun k => !isReserved k.1
    let home ← Run.allocate ⟨moduleNames localName ++ copied, keyTypes, []⟩
    Run.change (·.bindName scope.home localName (.module home))
    return home

/-- Calls a function of a module that a name of the scope is bound to. -/
def call (scope : Scope) (localName function : String) (args : List Value) : Work Value := do
  match ← scope.get? localName with
  | none => .fail (.execution scope.name ("name '" ++ localName ++ "' is not defined"))
  | some module =>
    .ofRun scope.interrupted do
      let f ← Run.attributeOf module function
      Run.call f args

/-! ## Scopes for one use -/

/-- Runs a source in a scope that is gone afterwards. -/
def execute (source : Source) (name : Option String) : Work Unit :=
  within (name.getD anonymousName) fun scope => do
    .tell .debug ("Executing source in scope '" ++ scope.name ++ "'")
    scope.run source

/-- Runs a definition in one scope and calls a function of it from another
scope, with the first row of a table as arguments. -/
def callNamed (definition : Source) (function : String) (params : Option Table) :
    Work Value :=
  within definitionName fun definitions => do
    definitions.run definition
    within callName fun caller => do
      let copy ← caller.importScope definitions definitionAlias
      .releasing copy do
        let args ← .argumentsOf params
        .tell .debug
          ("Calling " ++ definitionAlias ++ "." ++ function ++ " with "
            ++ Numeral.text args.length ++ " argument(s)")
        caller.call definitionAlias function args

end Scope

/-! ## Modules -/

/-- The module of a name. -/
def Work.importModule (name : String) : Work Home :=
  .ofRun (fun e => .importing name e.line) (Run.importModule name)

/-- Adds an entry to the search path.  Nothing keeps it from being there
twice. -/
def Work.extendPath (entry : String) : Work Unit := do
  Work.changeEngine (·.extendPath entry)
  Work.tell .debug ("Appended to sys.path: " ++ entry)

end EmbeddedPython
