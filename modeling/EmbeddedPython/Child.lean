import EmbeddedPython.ExitStatus
import EmbeddedPython.Machine
import EmbeddedPython.Text.Quoted

/-!
# Child processes

A `Command` is what a child process is started for, and a `Child` is its
life, as far as its parent can tell: what it has done by any moment, and
when and how it ends.  Moments are milliseconds since the start.

A `Launcher` starts commands.  What the host does with a child holds for
every launcher.
-/

namespace EmbeddedPython

/-- A program with one argument, run in a directory of its own. -/
structure Command where
  program : Path
  argument : Path
  directory : Path
deriving Repr, DecidableEq

namespace Command

/-- A character of a name between double quotes.  Characters beyond the
first 128 are shown as in any text. -/
def quotedChar (c : Char) : List Char :=
  if 0x80 ≤ c.toNat then Quoted.doubleChar c
  else if c = '\t' then ['\\', 't']
  else if c = '\r' then ['\\', 'r']
  else if c = '\n' then ['\\', 'n']
  else if c = '\\' || c = '\x27' || c = '\x22' then ['\\', c]
  else if c.toNat < 0x20 || c.toNat = 0x7F then
    ['\\', 'x'] ++ Numeral.padded 2 (Numeral.hexadecimal c.toNat)
  else [c]

/-- The name of a program or of a directory between double quotes. -/
def quotedName (octets : Octets) : String :=
  let body := (Octets.chunks octets).flatMap fun
    | .scalar c => quotedChar c
    | .malformed stray => stray.flatMap fun b => ['\\', 'x'] ++ Numeral.octetDigits b
  String.ofList (['\x22'] ++ body ++ ['\x22'])

/-- The text that shows a command. -/
def quoted (c : Command) : String :=
  "cd " ++ quotedName c.directory.octets ++ " && " ++ quotedName c.program.octets
    ++ " " ++ c.argument.quoted

end Command

/-- What a child has done: the files as it left them, and what it wrote. -/
structure Doings where
  files : FileSystem
  output : Octets
  errors : Octets
deriving Repr, Inhabited

/-- The life of a child process. -/
structure Child where
  /-- The number of the process, as messages show it. -/
  number : String
  /-- What it has done by a moment. -/
  doings : Nat → Doings
  /-- The moment it ends, and how.  Without one it runs on until it is
  killed. -/
  ending : Option (Nat × ExitStatus)

namespace Child

/-- The moment and the status of the end, for one who looks at a moment. -/
def endedBy? (child : Child) (moment : Nat) : Option (Nat × ExitStatus) :=
  match child.ending with
  | some (last, status) => if last ≤ moment then some (last, status) else none
  | none => none

end Child

/-- Starts a command on a machine. -/
abbrev Launcher := Machine → Command → Except FileFault Child

end EmbeddedPython
