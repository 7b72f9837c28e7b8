import EmbeddedPython.Config
import EmbeddedPython.HostType
import EmbeddedPython.Installation
import EmbeddedPython.Script
import EmbeddedPython.Table

/-!
# Errors of the host

`HostError` gives the cause of every error that an operation of the host may
end in, and `HostError.report` tells it.  An operation may also end in a
`Panic`, which no caller is meant to handle; a `Failure` is either.
-/

namespace EmbeddedPython

/-- What is wrong with the arguments of an operation. -/
inductive ConfigurationFault where
  | version (fault : Version.Fault)
  /-- A root that a list of paths cannot hold. -/
  | separator (root : Path)
  | script (fault : Script.Fault)
  | blankFunction
  | blankSource
deriving Repr, DecidableEq

/-- What is said about a fault. -/
def ConfigurationFault.message : ConfigurationFault → String
  | version fault => fault.message
  | separator root =>
    "Installation root " ++ root.display
      ++ " cannot be placed on PATH: path segment contains separator `:`"
  | script fault => fault.message
  | blankFunction => "Function name should not be empty"
  | blankSource => "Script source should not be empty"

/-- Why the bootstrap script did not do its work. -/
inductive BootstrapFault where
  /-- No executable of the series. -/
  | noExecutable (series : String)
  | noScript (script : Path)
  | notStarted (executable : Path) (fault : FileFault)
  /-- The script ended with a complaint: the text of its status. -/
  | exited (script status : String)
  /-- The script was stopped after this time. -/
  | timedOut (script time : String)
deriving Repr, DecidableEq

/-- What is said about a fault. -/
def BootstrapFault.message : BootstrapFault → String
  | noExecutable series => "no Python " ++ series ++ " executable found"
  | noScript script => "bootstrap script not found: " ++ script.display
  | notStarted executable fault =>
    "failed to start " ++ executable.display ++ ": " ++ fault.message
  | exited script status => script ++ " exited with " ++ status
  | timedOut script time => script ++ " did not finish within " ++ time

/-- Why the interpreter did not start. -/
inductive StartFault where
  | notReady
  /-- It started, and nothing tells of it. -/
  | notRecorded
deriving Repr, DecidableEq

/-- What is said about a fault. -/
def StartFault.message : StartFault → String
  | notReady => "Python not initialized after initialize call"
  | notRecorded => "interpreter state was not recorded"

/-- The cause of an error. -/
inductive HostError where
  | configuration (fault : ConfigurationFault)
  | libraryNotFound (root : Path) (expected : String)
  /-- A file that is there but does not load. -/
  | libraryLoad (path : Path)
  | interpreterInit (fault : StartFault)
  | alreadyInitialized
  | notInitialized
  | reentrant
  | compilation (scope message : String)
  | execution (scope message : String)
  | importing (module message : String)
  | invalidCast (target : HostType) (found : String)
  | marshal (fault : Table.Fault)
  /-- The package installer cannot be imported, and why the script did not
  help if it ran into trouble. -/
  | bootstrap (root : Path) (reason : Option BootstrapFault)
  | python (e : Raised)
  | io (fault : FileFault)
  | config (e : ConfigError)
deriving Repr, DecidableEq

namespace HostError

/-- What is said about a bootstrap that did not help. -/
def bootstrapMessage : Option BootstrapFault → String
  | some reason => "pip is still not importable: " ++ reason.message
  | none => "pip is still not importable after running the bootstrap script"

/-- What is said about a library that does not load. -/
def loadMessage (path : Path) : String :=
  path.display ++ ": not a shared library"

/-- What is told of an error. -/
def report : HostError → Report
  | configuration fault => .configuration fault.message
  | libraryNotFound root expected => .libraryNotFound root expected
  | libraryLoad path => .libraryLoad (loadMessage path)
  | interpreterInit fault => .interpreterInit fault.message
  | alreadyInitialized => .alreadyInitialized
  | notInitialized => .notInitialized
  | reentrant => .reentrant
  | compilation scope message => .compilation scope message
  | execution scope message => .execution scope message
  | importing module message => .importing module message
  | invalidCast target found => .invalidCast target.fullName found
  | marshal fault => .marshal fault.message
  | bootstrap root reason => .bootstrap root (bootstrapMessage reason)
  | python e => .python (e.kind ++ ": " ++ e.text)
  | io fault => .io fault.message
  | config e => .config e.report

/-- The error of a value that does not fit. -/
def ofMisfit : Misfit → HostError
  | .cast target found => invalidCast target found
  | .raised kind => python ⟨kind, ""⟩

end HostError

/-- An end that no caller is meant to handle. -/
inductive Panic where
  | overflow (o : Overflow)
  /-- A time that the clock cannot reach. -/
  | deadline
  /-- Work of the caller that gave up, with its message. -/
  | raised (message : String)
deriving Repr, DecidableEq

/-- What is said about a panic. -/
def Panic.message : Panic → String
  | overflow o => o.message
  | deadline => "overflow when adding duration to instant"
  | raised message => message

/-- An end without a result. -/
inductive Failure where
  | error (e : HostError)
  | panic (p : Panic)
deriving Repr, DecidableEq

end EmbeddedPython
