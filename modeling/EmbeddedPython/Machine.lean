import EmbeddedPython.FileSystem
import EmbeddedPython.Log

/-!
# The machine around the host

`Machine` is what the host finds around itself: files, environment variables,
the settings of the log, the console and the clock.  Most of what the clock
says is given by the texts it leads to, since no decision of the host hangs
on them.
-/

namespace EmbeddedPython

/-- What the clock says. -/
structure Clock where
  /-- The local time at the start of a record. -/
  stamp : String
  /-- How long an operation took. -/
  elapsed : String
  /-- The seconds that the machine has been up. -/
  uptime : Nat
deriving Repr, DecidableEq, Inhabited

namespace Clock

/-- The last second that a clock can show. -/
def last : Nat := Int64.maxValue.toNatClampNeg

/-- The clock can show the moment so many seconds from now. -/
def reaches (clock : Clock) (seconds : Nat) : Bool :=
  clock.uptime + seconds ≤ last

end Clock

/-- The files with a record at the end of one of them, made at the time that
`stamp` shows.  A record that cannot be written is lost. -/
def FileSystem.record (fs : FileSystem) (path : Path) (stamp : String) (r : Log.Record) :
    FileSystem :=
  match fs.append path (Octets.ofText (r.text stamp)) with
  | .ok fs => fs
  | .error _ => fs

/-- The surroundings of the host. -/
structure Machine where
  files : FileSystem
  /-- The environment variables, each name once. -/
  environment : List (String × Octets)
  log : Log
  /-- What was echoed to the console. -/
  console : String
  clock : Clock
deriving Repr, Inhabited

namespace Machine

/-! ## Environment variables -/

/-- The value of a variable. -/
def environment? (m : Machine) (name : String) : Option Octets :=
  m.environment.lookup name

/-- The machine with a variable set. -/
def setVariable (m : Machine) (name : String) (value : Octets) : Machine :=
  { m with environment := (name, value) :: m.environment.filter fun v => v.1 != name }

theorem environment?_setVariable (m : Machine) (name : String) (value : Octets) :
    (m.setVariable name value).environment? name = some value :=
  List.lookup_cons_self

theorem environment?_setVariable_of_ne (m : Machine) {name other : String}
    (h : other ≠ name) (value : Octets) :
    (m.setVariable name value).environment? other = m.environment? other :=
  Lookup.lookup_put_of_ne h value m.environment

/-- The home directory. -/
def home? (m : Machine) : Option Path :=
  match m.environment? "HOME" with
  | some value => if value.isEmpty then none else some ⟨value⟩
  | none => none

/-! ## Records -/

/-- The machine with a record at the end of the log file, if there is one. -/
def record (m : Machine) (r : Log.Record) : Machine :=
  match m.log.path with
  | none => m
  | some path => { m with files := m.files.record path m.clock.stamp r }

/-- The machine after a message. -/
def tell (m : Machine) (level : Log.Level) (message : String) : Machine :=
  let m := m.record (level.record message)
  match m.log.echo? level message with
  | some line => { m with console := m.console ++ line }
  | none => m

/-- The machine after the end of a command was recorded. -/
def recordCommand (m : Machine) (command : String) (code : Option Int)
    (output errors : Octets) : Machine :=
  (Log.commandRecords command code output errors).foldl record m

/-! ## The spinner -/

/-- The machine with something under way, which only a terse and audible log
shows. -/
def startSpinner (m : Machine) (message : String) : Machine :=
  if m.log.verbosity > 0 || m.log.quiet then m
  else { m with log := { m.log with spinner := some message } }

/-- The machine with nothing under way. -/
def stopSpinner (m : Machine) : Machine :=
  { m with log := { m.log with spinner := none } }

/-- The machine after what was under way succeeded. -/
def finishSpinner (m : Machine) (message : String) : Machine :=
  m.stopSpinner.tell .success message

/-- The machine after what was under way failed. -/
def failSpinner (m : Machine) (message : String) : Machine :=
  m.stopSpinner.tell .failure message

/-! ## Opening the log -/

/-- Why a log could not be opened. -/
inductive LogFault where
  | noHome
  | directory (fault : FileFault)
deriving Repr, DecidableEq

/-- What is said about a fault. -/
def LogFault.message : LogFault → String
  | noHome => "Could not determine home directory"
  | directory fault => "Failed to create log directory: " ++ fault.message

/-- The machine with new settings of the log, but the old log file. -/
def configureLog (m : Machine) (verbosity : Nat) (forwards quiet : Bool) : Machine :=
  { m with log := { m.log with verbosity, forwards, quiet } }

/-- The machine with the directory of a path. -/
def createParent (m : Machine) (path : Path) : Except FileFault Machine :=
  match path.parent? with
  | none => .ok m
  | some directory =>
    match m.files.createDirectories directory with
    | .ok files => .ok { m with files }
    | .error fault => .error (m.files.directoryFault directory fault)

/-- The machine with what can be made of the directory of a path. -/
def makeParent (m : Machine) (path : Path) : Machine :=
  match path.parent? with
  | none => m
  | some directory => { m with files := m.files.makeDirectories directory }

/-- The machine without a file at a path, as far as it can be removed. -/
def removeOld (m : Machine) (path : Path) : Machine :=
  match m.files.remove path with
  | .ok files => { m with files }
  | .error _ => m

/-- The machine with an empty log at a path.  The settings are made first,
and stay made when the directory of the log cannot be, as what was made of it
does. -/
def openLog (m : Machine) (path : Path) (verbosity : Nat) (forwards quiet : Bool) :
    Except LogFault Unit × Machine :=
  let m := m.configureLog verbosity forwards quiet
  match m.createParent path with
  | .error fault => (.error (.directory fault), m.makeParent path)
  | .ok m =>
    let m := m.removeOld path
    (.ok (), { m with log := { m.log with path := some path } })

/-- The place of the log below the home directory. -/
def defaultLog (home : Path) : Path :=
  home / ".config" / "pyhost" / "pyhost.log"

/-- The machine with an empty log at its default place. -/
def openDefaultLog (m : Machine) (verbosity : Nat) (forwards quiet : Bool) :
    Except LogFault Unit × Machine :=
  match m.home? with
  | none => (.error .noHome, m)
  | some home => m.openLog (defaultLog home) verbosity forwards quiet

end Machine

end EmbeddedPython
