import EmbeddedPython.Bootstrap
import EmbeddedPython.Environment
import EmbeddedPython.Library
import EmbeddedPython.Embedding
import EmbeddedPython.Scope

/-!
# Hosts

A `Host` is the handle of an embedded interpreter.  `Host.construct`
initializes the interpreter, which can be done once in a process, and the
other operations use it.

* Every operation holds the interpreter lock while the interpreter works.
  What is wrong with its arguments is told before the lock is asked for, and a
  script that is run is read before that as well.
* `Host.callScript` and `Host.callFile` call a function of a program and
  convert the result to a type of the host.
* The search path grows by one entry with each call that runs a file, as
  soon as its arguments were found to be in order.
-/

namespace EmbeddedPython

/-- The handle of an embedded interpreter. -/
structure Host where
  target : Installation
  config : Config
  /-- The library, until the host is closed. -/
  library : Option Library
deriving Repr, DecidableEq

namespace Host

/-- The text that shows a host. -/
def quoted (h : Host) : String :=
  let version := Report.record "PythonVersion"
    [("major", Numeral.text h.target.version.major.toNat),
     ("minor", Report.option (h.target.version.minor.map fun m => Numeral.text m.toNat))]
  let target := Report.record "InstallationTarget"
    [("root", h.target.root.quoted), ("version", version)]
  Report.record "PythonHost"
    [("target", target), ("library", Report.option (h.library.map Library.quoted))]

/-! ## Construction -/

/-- The installation that settings name. -/
def targetOf (config : Config) : Except HostError Installation :=
  (Installation.resolve config.root config.version).mapError fun fault =>
    .configuration (.version fault)

/-- Sets the environment variables of an installation. -/
def installEnvironment (i : Installation) : Op Unit := do
  let plan ← .ofExcept (((← Op.machine).planFor i).mapError .configuration)
  .changeMachine (·.install plan)

/-- Records what initialized the interpreter, unless something did before: then
this is a failure. -/
def record (already : Failure) (i : Initialization) : Op Unit := do
  let earlier ← modifyGet fun p => (p.initialized, p.record i)
  if earlier.isSome then .fails already
  if (← get).initialized.isNone then .fail (.interpreterInit .notRecorded)

/-- Initializes the interpreter. -/
def start (already : Failure) (i : Installation) (library : Library) : Op Unit := do
  let elapsed ← .ofWork .elapsed
  .tell .debug ("pyo3::Python::initialize took: " ++ elapsed)
  let engine ← .ofWork .engine
  if !engine.starts then .fail (.interpreterInit .notReady)
  if !i.version.covers Engine.series then
    .tell .warning
      ("Python version mismatch: requested " ++ i.version.text
        ++ ", but the interpreter reports " ++ Engine.series.text)
  record already ⟨i.version, library.path⟩

/-- Sends the interpreter's own logging to the log file. -/
def forwardLogging : Work Unit := do
  let log := (← Work.machine).log
  match log.path with
  | none => .tell .debug "Host log file not initialized; Python logging left unchanged"
  | some path =>
    .changeEngine fun e => { e with handler := some ⟨path, log.interpreterLevel⟩ }
    .tell .debug
      ("Python logging forwarded to " ++ path.display ++ " at level "
        ++ log.interpreterLevel.name)

/-- What is told of an installation before it is embedded. -/
def announcement (i : Installation) : String :=
  "Embedding Python " ++ i.version.text ++ " from " ++ i.root.display

/-- Embeds the interpreter of an installation.  The library is given back when
the interpreter does not start. -/
def embed (already : Failure) (config : Config) : Op Host := do
  let target ← .ofExcept (targetOf config)
  .tell .info (announcement target)
  installEnvironment target
  let library ← .openLibrary target
  (start already target library).orClear (·.releaseLibrary library)
  let engine ← .ofWork .engine
  .tell .debug ("Interpreter ready: " ++ engine.banner)
  if config.forwardsLogging || (← Op.machine).log.forwards then .ofWork forwardLogging
  let elapsed ← .ofWork .elapsed
  .tell .debug ("Total host initialization took: " ++ elapsed)
  return ⟨target, config, some library⟩

/-- Embeds the interpreter of an installation, unless there is one.  That there
is one may also come out when it is recorded, which ends in a failure of its
own. -/
def attempt (already : Failure) (config : Config) : Op Host := do
  if (← get).initialized.isSome then .fail .alreadyInitialized
  embed already config

/-- An attempt with the lock. -/
def constructOr (already : Failure) (config : Config) : Op Host :=
  .exclusive .initialization (attempt already config)

/-- The attempt to embed the interpreter of an installation. -/
def construct (config : Config) : Op Host :=
  constructOr (.error .alreadyInitialized) config

/-- Embeds the interpreter of the installation at a root. -/
def ofRoot (root : Path) (version : Option String) : Op Host :=
  construct (.ofRoot root version)

/-- Embeds the interpreter that a file of settings names. -/
def ofFile (file : Path) : Op Host := do
  match Config.load (← Op.machine) file with
  | .ok config => construct config
  | .error e => .fail (.config e)

/-- The host without its library, which is given back if it is still there. -/
def releaseLibrary (h : Host) : Op Host := do
  match h.library with
  | none => return h
  | some library =>
    .tell .debug ("Releasing Python library: " ++ library.path.display)
    modify (·.releaseLibrary library)
    return { h with library := none }

/-- The end of a host. -/
def drop (h : Host) : Op Unit := do
  let _ ← h.releaseLibrary

/-- Closes a host, which is the end of it.  The interpreter stays
initialized. -/
def close (h : Host) : Op Unit := do
  let h ← h.releaseLibrary
  h.drop

/-! ## Checks before the lock -/

/-- A function has a name. -/
def checkFunction (function : String) : Except HostError Unit :=
  if Text.isAllBlank function then .error (.configuration .blankFunction) else .ok ()

/-- A source has something in it. -/
def checkSource (source : Source) : Except HostError Unit :=
  if source.isBlank then .error (.configuration .blankSource) else .ok ()

/-- The script at a path. -/
def scriptAt (path : String) : Op Script := do
  let script := Script.ofPath (← Op.machine).home? path
  .ofExcept (script.mapError fun fault => .configuration (.script fault))

/-- The first row of a table can be used. -/
def checkParams : Option Table → Op Unit
  | none => return
  | some t => do
    .changeMachine (·.noteUnusedRows t)
    let _ ← .ofExcept (t.argumentRow.mapError .marshal)

/-! ## The search path -/

/-- Appends an entry to the search path. -/
def setPath (_ : Host) (entry : String) : Op Unit :=
  .locked (.ofWork (.extendPath entry))

/-- The entries that the search path was extended by. -/
def searchPath (_ : Host) : Op (List String) :=
  .locked <| .ofWork do
    return (← Work.engine).searchPath

/-- Looks for modules anew.  Every import looks at the files as they are, so
nothing has to be forgotten, and the search path stays as it is. -/
def refreshImports (_ : Host) : Op Unit :=
  .locked (.ofWork (.tell .debug "Import caches invalidated and site reloaded"))

/-! ## Programs -/

/-- Imports a module by name. -/
def importModule (_ : Host) (name : String) : Op Unit :=
  .locked <| .ofWork do
    let _ ← Work.importModule name
    .tell .debug ("Imported " ++ name ++ " in " ++ (← Work.elapsed))

/-- Runs a source in a scope that is gone afterwards. -/
def execute (_ : Host) (source : Source) (scope : Option String) : Op Unit :=
  .locked (.ofWork (Scope.execute source scope))

/-- Runs a script that was read in a scope that has the name of its module. -/
def runRead (_ : Host) (script : Script) (reading : Except FileFault Source) : Op Unit := do
  let source ← .ofExcept (reading.mapError .io)
  .tell .debug ("Running script " ++ script.file.display)
  .locked <| .ofWork do
    .extendPath script.searchEntry
    Scope.execute source (some script.moduleName)

/-- Runs the script at a path. -/
def runFile (h : Host) (path : String) : Op Unit := do
  let script ← scriptAt path
  let files := (← Op.machine).files
  h.runRead script (files.readSource script.file)

/-- The result of a call as a value of the host. -/
def convert (t : HostType) (v : Value) : Except HostError t.Carrier :=
  (t.read v).mapError .ofMisfit

/-- Calls a function of a source with the first row of a table, and converts
the result. -/
def callScript (_ : Host) (source : Source) (function : String) (params : Option Table)
    (t : HostType) : Op t.Carrier := do
  .ofExcept (checkSource source)
  .ofExcept (checkFunction function)
  checkParams params
  .locked <| .ofWork do
    let v ← Scope.callNamed source function params
    .tell .debug
      ("Script function '" ++ function ++ "' returned " ++ v.typeName ++ " in "
        ++ (← Work.elapsed))
    .ofExcept (convert t v)

/-- Calls a function of a module with the first row of a table. -/
def callModule (name function : String) (params : Option Table) : Work Value := do
  let interrupted (e : Raised) : HostError := .execution name e.line
  .tell .debug ("Importing module: " ++ name)
  let module ← Work.importModule name
  let f ← .ofRun interrupted (Run.attributeOf (.module module) function)
  let args ← .argumentsOf params
  let v ← .ofRun interrupted (Run.call f args)
  .tell .debug
    (name ++ "." ++ function ++ " returned " ++ v.typeName ++ " in " ++ (← Work.elapsed))
  return v

/-- Imports the script at a path as a module, calls a function of it with the
first row of a table, and converts the result. -/
def callFile (_ : Host) (path function : String) (params : Option Table) (t : HostType) :
    Op t.Carrier := do
  let script ← scriptAt path
  .ofExcept (checkFunction function)
  checkParams params
  .locked <| .ofWork do
    .extendPath script.searchEntry
    let v ← callModule script.moduleName function params
    .ofExcept (convert t v)

/-! ## The package installer -/

/-- Sees to it that the package installer can be imported. -/
def initPip (h : Host) (launch : Launcher) : Op Bool :=
  .locked (.ofWork (Bootstrap.install launch h.target h.config))

end Host

end EmbeddedPython
