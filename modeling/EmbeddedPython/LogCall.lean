import EmbeddedPython.ExitStatus
import EmbeddedPython.Machine

/-!
# Calls of the log

A `LogRequest` asks for a log, and a `LogCall` is one of the operations on a log
that is open, both as data: `Machine.initLog` and `Machine.perform` carry them
out.  `Machine.performAll` carries out a row of calls, each at a time of its own.
-/

namespace EmbeddedPython

/-- A request for an empty log, with the settings it starts with. -/
structure LogRequest where
  /-- The log file, unless it is the one at the default place. -/
  file : Option Path
  verbosity : Nat
  forwards : Bool
  quiet : Bool
deriving Repr, DecidableEq

/-- An operation on the log with its arguments. -/
inductive LogCall where
  | tell (level : Log.Level) (message : String)
  /-- The streams of a command whose exit code is known or not. -/
  | recordStreams (command : String) (code : Option Int) (output errors : Octets)
  /-- The end of a command with its streams. -/
  | recordEnd (command : String) (status : ExitStatus) (output errors : Octets)
  | startSpinner (message : String)
  | finishSpinner (message : String)
  | failSpinner (message : String)
  | stopSpinner
  /-- The interpreter's own logging goes into the log file or not. -/
  | setForwards (on : Bool)
  /-- Nothing is echoed, or everything that the verbosity asks for is. -/
  | setQuiet (on : Bool)
deriving Repr, DecidableEq

namespace Machine

/-- The machine with the log that a request asks for. -/
def initLog (m : Machine) (r : LogRequest) : Except LogFault Unit × Machine :=
  match r.file with
  | some path => m.openLog path r.verbosity r.forwards r.quiet
  | none => m.openDefaultLog r.verbosity r.forwards r.quiet

/-- The machine after a call of the log. -/
def perform (m : Machine) : LogCall → Machine
  | .tell level message => m.tell level message
  | .recordStreams command code output errors => m.recordCommand command code output errors
  | .recordEnd command status output errors =>
    m.recordCommand command status.code? output errors
  | .startSpinner message => m.startSpinner message
  | .finishSpinner message => m.finishSpinner message
  | .failSpinner message => m.failSpinner message
  | .stopSpinner => m.stopSpinner
  | .setForwards on => { m with log := { m.log with forwards := on } }
  | .setQuiet on => { m with log := { m.log with quiet := on } }

/-- The machine at another time. -/
def atTime (m : Machine) (stamp : String) : Machine :=
  { m with clock := { m.clock with stamp } }

/-- The machine after calls of the log, each with the stamp of its time. -/
def performAll (m : Machine) (calls : List (String × LogCall)) : Machine :=
  calls.foldl (fun m call => (m.atTime call.1).perform call.2) m

end Machine

end EmbeddedPython
