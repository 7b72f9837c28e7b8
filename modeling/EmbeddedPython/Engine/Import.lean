import EmbeddedPython.Engine.Execute

/-!
# Imports

`Run.importModule` imports a module by name.  A module is imported once: its
program runs in a new namespace, and from then on the name stands for that
module wherever the search path leads.

* A module is there from the moment its program starts, so a program that
  imports itself in a circle sees the names that are bound so far.
* A module whose program raises is gone again.
* A module in a package is bound in the package once its program ended.

Calls, imports and programs start each other, so `Run.reach` is recursive in how
deep they may still nest.
-/

namespace EmbeddedPython.Run

/-! ## Imports -/

/-- An import without a name. -/
def emptyName : Raised :=
  ⟨"ValueError", "Empty module name"⟩

/-- A module that is not there. -/
def notFound (name : String) : Raised :=
  ⟨"ModuleNotFoundError", "No module named " ++ Quoted.single name⟩

/-- A module in something that is no package. -/
def notPackage (name parent : String) : Raised :=
  ⟨"ModuleNotFoundError", "No module named " ++ Quoted.single name ++ "; "
    ++ Quoted.single parent ++ " is not a package"⟩

/-- The entries that a value is as a search path. -/
def placesOf (v : Value) : Except Raised (List String) :=
  match v.core with
  | .list items | .tuple items =>
    .ok (items.filterMap fun item =>
      match item.core with
      | .str s => some s
      | _ => none)
  | .str s => .ok (s.toList.map fun c => String.ofList [c])
  | .bytes _ | .byteArray _ => .ok []
  | _ => Operation.notIterable v

/-- The entries that the last part of a name is searched in: those of the
package it is in, which is imported first.  Without a package, or in a package
without entries of its own, it is the search path. -/
def places (r : Reach) (name : String) : Run (List String) := do
  match ModuleName.parent? name with
  | none => return (← engine).searchPath
  | some parent =>
    let package ← r.importModule parent
    match (← engine).global? package "__path__" with
    | some .none => return (← engine).searchPath
    | some v => ofExcept (placesOf v)
    | none => throw (notPackage name parent)

/-- Binds a module in the package it is in. -/
def bindInParent (name : String) (home : Home) : Run Unit := do
  if let some parent := ModuleName.parent? name then
    if let some package := (← engine).module? parent then
      change (·.bindName package (ModuleName.tail name) (.module home))

/-- Adds a module that has no program. -/
def addModule (name : String) (names : Namespace) : Run Home := do
  let home ← allocate names
  change (·.startLoading name home)
  change (·.finishLoading home)
  return home

/-- The statements of the program of a module. -/
def programOf (found : Finder.Finding) : Run (List Statement) := do
  match found.source? with
  | none => return []
  | some path =>
    match (← files).read path with
    | .error _ => return []
    | .ok content => ofExcept ((Finder.compileFile content).mapError SyntaxFault.raised)

/-- Runs the program of a module that was found. -/
def load (r : Reach) (name : String) (found : Finder.Finding) :
    Run Home := do
  let home ← allocate (found.names name)
  change (·.startLoading name home)
  tryCatch
    (do
      let program ← programOf found
      executeProgram r home program)
    (fun e => do
      change (·.abandonLoading name home)
      throw e)
  change (·.finishLoading home)
  return home

/-- What the entries of a search path have under a name. -/
def search (entries : List String) (name : String) : Run (Option Finder.Finding) := do
  let fs ← files
  ofExcept (Finder.search fs (entries.map (Finder.directoryOf fs)) (ModuleName.tail name))

/-- Imports a module that is there without a file of the host. -/
def loadStandard (r : Reach) (name : String) : Run Home := do
  if let some parent := ModuleName.parent? name then
    let _ ← r.importModule parent
  addModule name (Finder.standardNames name)

/-- Imports a module from a file.  The import of its package may have
imported it as well. -/
def loadFound (r : Reach) (name : String) : Run Home := do
  let entries ← places r name
  match (← engine).module? name with
  | some home => return home
  | none =>
    match ← search entries name with
    | some found => load r name found
    | none => throw (notFound name)

/-- Imports a module that is not there yet. -/
def loadNew (r : Reach) (name : String) : Run Home := do
  let home ←
    if Standard.provides name then loadStandard r name
    else loadFound r name
  bindInParent name home
  return home

/-- The module of a name. -/
def importWith (r : Reach) (name : String) : Run Home := do
  if name.isEmpty then throw emptyName
  match (← engine).module? name with
  | some home => return home
  | none => loadNew r name

/-! ## Nesting -/

/-- How deep calls and imports may nest. -/
def depth : Nat := 1000

/-- What may be started with so many levels below it. -/
def reach : Nat → Reach
  | 0 => ⟨fun _ _ _ => throw .tooDeep, fun _ => throw .tooDeep⟩
  | levels + 1 => ⟨callWith (reach levels), importWith (reach levels)⟩

/-- Calls a value. -/
def call (f : Value) (args : List Value) : Run Value :=
  (reach depth).call f args []

/-- An attribute of a value. -/
def attributeOf (v : Value) (field : String) : Run Value :=
  attributeWith (reach depth) v field

/-- The module of a name.  The first part of a name is a module as well, so
a name that starts with a dot is none, even though a file may have been run
for it. -/
def importModule (name : String) : Run Home := do
  let home ← (reach depth).importModule name
  let _ ← (reach depth).importModule (ModuleName.head name)
  return home

/-- Carries out a program in a namespace. -/
def runProgram (home : Home) (program : List Statement) : Run Unit :=
  executeProgram (reach depth) home program

end EmbeddedPython.Run
