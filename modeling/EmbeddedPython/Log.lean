import EmbeddedPython.Path
import EmbeddedPython.Text.Numeral

/-!
# The log

What the host does is written down in a log file and, as far as the settings
ask for it, echoed to the console.  This module holds the settings and the
texts: a `Record` is a line of the file, and `Level` says for every kind of
message what is recorded and what is echoed.

A record never depends on the settings of the console, so two hosts that
differ in these settings alone write the same file.
-/

namespace EmbeddedPython

/-- How grave a message of the interpreter's own logging is. -/
inductive Severity where
  | debug
  | info
  | warning
  | error
  | critical
deriving Repr, DecidableEq

namespace Severity

/-- The name of a severity in a record. -/
def name : Severity → String
  | debug => "DEBUG"
  | info => "INFO"
  | warning => "WARNING"
  | error => "ERROR"
  | critical => "CRITICAL"

/-- The place of a severity among all. -/
def rank : Severity → Nat
  | debug => 1
  | info => 2
  | warning => 3
  | error => 4
  | critical => 5

/-- The severity that a function of the logging module stands for. -/
def ofFunction? (function : String) : Option Severity :=
  [("debug", debug), ("info", info), ("warning", warning), ("warn", warning),
    ("error", error), ("critical", critical), ("fatal", critical)].lookup function

end Severity

/-- The settings of the log. -/
structure Log where
  /-- The log file, once there is one. -/
  path : Option Path
  verbosity : Nat
  /-- The interpreter's own logging goes into the log file. -/
  forwards : Bool
  /-- Nothing is echoed. -/
  quiet : Bool
  /-- Echoed words are coloured. -/
  coloured : Bool
  /-- The message that is shown while something is under way. -/
  spinner : Option String
deriving Repr, DecidableEq, Inhabited

namespace Log

/-- The settings before any are made. -/
def initial : Log :=
  ⟨none, 0, false, false, false, none⟩

/-- The lowest severity that is forwarded of the interpreter's logging. -/
def interpreterLevel (log : Log) : Severity :=
  match log.verbosity with
  | 0 => .warning
  | 1 => .info
  | _ => .debug

/-- What a record is about. -/
inductive Origin where
  | host
  | child
  | interpreter
deriving Repr, DecidableEq

/-- The name of an origin. -/
def Origin.name : Origin → String
  | host => "HOST"
  | child => "CHILD"
  | interpreter => "PYTHON"

/-- An entry of the log file. -/
structure Record where
  origin : Origin
  message : String
deriving Repr, DecidableEq

/-- The text of a record made at the time that `stamp` shows. -/
def Record.text (stamp : String) (r : Record) : String :=
  "[" ++ stamp ++ "] [" ++ r.origin.name ++ "] " ++ r.message ++ "\n"

/-! ## Colours -/

/-- A colour of the console. -/
inductive Colour where
  | red
  | green
  | yellow
  | blue
deriving Repr, DecidableEq

/-- The number of a colour. -/
def Colour.code : Colour → String
  | red => "31"
  | green => "32"
  | yellow => "33"
  | blue => "34"

/-- A word in bold letters of a colour, if there are colours. -/
def paint (coloured : Bool) (colour : Colour) (word : String) : String :=
  if coloured then "\x1b[1;" ++ colour.code ++ "m" ++ word ++ "\x1b[0m" else word

/-! ## Levels -/

/-- A kind of message. -/
inductive Level where
  | info
  | debug
  | warning
  | error
  | success
  /-- The end of something under way that did not succeed. -/
  | failure
  /-- A step on the way. -/
  | step
deriving Repr, DecidableEq

namespace Level

/-- What the log file says. -/
def record (level : Level) (message : String) : Record :=
  let word := match level with
    | info => "INFO "
    | debug => "DEBUG "
    | warning => "WARN "
    | error | failure => "ERROR "
    | success => "SUCCESS "
    | step => "STEP: "
  ⟨.host, word ++ message⟩

/-- The verbosity from which on a message is echoed. -/
def threshold : Level → Nat
  | info | debug => 1
  | step => 2
  | warning | error | success | failure => 0

/-- What the console says. -/
def echo (level : Level) (coloured : Bool) (message : String) : String :=
  match level with
  | info => message
  | debug => paint coloured .blue "DEBUG:" ++ " " ++ message
  | warning => paint coloured .yellow "warning:" ++ " " ++ message
  | error => paint coloured .red "Error:" ++ " " ++ message
  | success => paint coloured .green "✔" ++ " " ++ message
  | failure => "  " ++ paint coloured .red "✗" ++ " " ++ message
  | step => "TRACE: " ++ message

end Level

/-- What is echoed of a message under some settings. -/
def echo? (log : Log) (level : Level) (message : String) : Option String :=
  if log.quiet || log.verbosity < level.threshold then none
  else some (level.echo log.coloured message ++ "\n")

/-! ## Output of child processes -/

/-- The text of an exit code that may be missing. -/
def codeText : Option Int → String
  | some code => "Some(" ++ Numeral.signed code ++ ")"
  | none => "None"

/-- The record of one stream, unless it is empty. -/
def streamRecords (label : String) (octets : Octets) : List Record :=
  if octets.isEmpty then []
  else [⟨.child, "  " ++ label ++ ":\n" ++ Octets.lossy octets⟩]

/-- The records of a command that ended. -/
def commandRecords (command : String) (code : Option Int) (output errors : Octets) :
    List Record :=
  ⟨.host, "COMMAND: " ++ command ++ " (exit code: " ++ codeText code ++ ")"⟩
    :: streamRecords "STDOUT" output ++ streamRecords "STDERR" errors

end Log

end EmbeddedPython
