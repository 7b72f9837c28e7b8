import EmbeddedPython.Child
import EmbeddedPython.Shell.Script

/-!
# The state of a running script

A running script works on files, writes two streams and takes time, which
only sleeping does.  What all of its processes share is the `World`; what each
of them has for itself is the `Process`.

An `Act` is a step of a script.  It ends in a result or in a `Stop`, and what
was done up to there stays done in either case.  `State.life` turns a script
that ended into the life of a child process.
-/

namespace EmbeddedPython.Shell

/-- The octets of characters that stand for one octet each. -/
def octetsOf (cs : List Char) : Octets :=
  cs.map fun c => c.toNat.toUInt8

/-- The characters that stand for octets. -/
def charsOf (octets : Octets) : List Char :=
  octets.map fun b => Char.ofNat b.toNat

/-- The path that characters name. -/
def pathOf (cs : List Char) : Path :=
  ⟨octetsOf cs⟩

/-! ## The world -/

/-- One of the two streams that the parent reads. -/
inductive Stream where
  | output
  | errors
deriving Repr, DecidableEq, Inhabited

/-- What a stream of a process leads to. -/
inductive Channel where
  /-- What the parent reads. -/
  | own (stream : Stream)
  /-- Takes everything and holds nothing. -/
  | nowhere
  /-- A file, up to some octet of it. -/
  | file (place : Location) (mode : Opening) (offset : Nat)
  /-- Octets that were written and not read yet. -/
  | pipe (content : Octets)
deriving Repr, Inhabited

/-- A variable of a script, which may be declared without a value. -/
structure Variable where
  value : Option (List Char)
  exported : Bool
  fixed : Bool
deriving Repr, Inhabited

/-- What one process of a script has for itself. -/
structure Process where
  /-- The name that complaints begin with. -/
  name : List Char
  /-- The command of the shell that is carried out, which complaints name as well. -/
  command : List Char
  /-- The number of the shell. -/
  number : List Char
  /-- The shells above it by their numbers, with what they do at signals. -/
  parents : List (List Char × List (Nat × List Char))
  arguments : List (List Char)
  bindings : List (String × Variable)
  functions : List (String × Command)
  /-- The texts that stand in for names of commands. -/
  abbreviations : List (String × List Char)
  /-- The permissions that new files do not get. -/
  mask : Nat
  /-- The options that are set, by their letters. -/
  options : List Char
  /-- What is done at a signal, by its number, and at the end, by zero. -/
  traps : List (Nat × List Char)
  /-- The signals that came and that something is still to be done at. -/
  signals : List Nat
  /-- The channel of each stream. -/
  streams : List (Nat × Nat)
  directory : Location
  /-- The status of the last command. -/
  status : Nat
  /-- The status in front of what is done at a signal or at the end. -/
  statusBefore : Option Nat
  /-- The status of the last command substitution, for a command without words. -/
  substituted : Nat
  /-- The line that is carried out. -/
  line : Nat
  /-- The line up to which the script was read. -/
  lineRead : Nat
  /-- The loops that are under way. -/
  loops : Nat
  /-- The functions that are under way. -/
  calls : Nat
  /-- The variables that get their old values back, one list for each command
  that hides some. -/
  hidden : List (List (String × Option Variable))
  /-- The number of the last command that was not waited for. -/
  lastJob : List Char
  /-- The numbers of those commands, the oldest first. -/
  jobNumbers : List (List Char)
  /-- The letters of a group of options that `getopts` has looked at. -/
  optionsSeen : Nat
deriving Inhabited

/-- A command that is not waited for, and the process that runs it. -/
structure Job where
  number : List Char
  start : Nat
  command : Command
  process : Process
deriving Inhabited

/-- What the processes of a script share. -/
structure World where
  files : FileSystem
  output : Octets
  errors : Octets
  channels : List (Nat × Channel)
  /-- The number of the next channel. -/
  fresh : Nat
  documents : List (Nat × Word)
  /-- The number of the next document. -/
  freshDocument : Nat
  /-- The milliseconds since the start. -/
  time : Nat
  /-- What was done by earlier moments, the latest first. -/
  trail : List (Nat × Doings)
  /-- The commands that were not waited for and did not run yet. -/
  jobs : List Job
  /-- A process has ended since it was last seen to those commands. -/
  isLater : Bool
  /-- The status of those that did. -/
  finished : List (List Char × Nat)
  /-- The processes that were started. -/
  processes : Nat
  /-- The signals that came for shells above the process that runs. -/
  sent : List (List Char × Nat)
  /-- The commands that may still be carried out. -/
  patience : Nat
deriving Inhabited

/-- The state of a running script. -/
structure State where
  world : World
  process : Process
deriving Inhabited

/-- Why a step did not end by itself. -/
inductive Stop where
  /-- The end of the process. -/
  | leave (status : Nat)
  /-- A mistake, which was told of. -/
  | fault (status : Nat)
  /-- The end of so many loops. -/
  | breakLoops (count : Nat)
  /-- The next round of the last of so many loops. -/
  | nextRound (count : Nat)
  /-- The end of a function. -/
  | goBack (status : Nat)
  /-- A signal to the shell of some number. -/
  | killed (number : List Char) (signal : Nat)
  /-- A script that goes on and on. -/
  | stuck
deriving Repr, Inhabited

/-- A step of a script. -/
abbrev Act (α : Type) := ExceptT Stop (StateM State) α

namespace Act

/-- The process. -/
def process : Act Process := do
  return (← get).process

/-- The world. -/
def world : Act World := do
  return (← get).world

/-- Changes the process. -/
def changeProcess (f : Process → Process) : Act Unit :=
  modify fun s => { s with process := f s.process }

/-- Changes the world. -/
def changeWorld (f : World → World) : Act Unit :=
  modify fun s => { s with world := f s.world }

/-- The end of a step, whichever way it ends. -/
def outcome {α : Type} (a : Act α) : Act (Except Stop α) :=
  ExceptT.mk do
    return .ok (← a.run)

/-- Ends as a step ended. -/
def ofOutcome {α : Type} : Except Stop α → Act α
  | .ok a => return a
  | .error stop => throw stop

/-- The files, as the process sees them. -/
def files : Act FileSystem := do
  let s ← get
  return { s.world.files with current := s.process.directory }

/-- Changes the files. -/
def setFiles (files : FileSystem) : Act Unit :=
  changeWorld fun w => { w with files }

/-- Sets the status of the last command. -/
def setStatus (status : Nat) : Act Unit :=
  changeProcess fun p => { p with status }

/-! ## Time -/

/-- What was done so far. -/
def doings (w : World) : Doings :=
  ⟨w.files, w.output, w.errors⟩

/-- Does nothing for a while. -/
def sleep (milliseconds : Nat) : Act Unit :=
  changeWorld fun w =>
    { w with trail := (w.time, doings w) :: w.trail, time := w.time + milliseconds }

/-- Takes note of one more command.  A script that carries out too many of them
never ends. -/
def spend : Act Unit := do
  let patience := (← world).patience
  if patience = 0 then throw .stuck
  else changeWorld fun w => { w with patience := patience - 1 }

/-! ## Variables -/

/-- A variable. -/
def variableNamed? (name : String) : Act (Option Variable) := do
  return (← process).bindings.lookup name

/-- The value of a variable. -/
def value? (name : String) : Act (Option (List Char)) := do
  return (← variableNamed? name).bind Variable.value

/-- The value of a variable, empty without one. -/
def valueOf (name : String) : Act (List Char) := do
  return (← value? name).getD []

/-- Sets a variable, whatever it was. -/
def putVariable (name : String) (v : Variable) : Act Unit :=
  changeProcess fun p =>
    { p with bindings := (name, v) :: p.bindings.filter fun other => other.1 != name }

/-- Takes a variable away. -/
def dropVariable (name : String) : Act Unit :=
  changeProcess fun p => { p with bindings := p.bindings.filter fun other => other.1 != name }

/-- The letters of options. -/
def optionLetters : List Char :=
  ['e', 'f', 'I', 'i', 'm', 'n', 's', 'x', 'v', 'V', 'E', 'C', 'a', 'b', 'u', 'p', 'l']

/-- An option is set. -/
def hasOption (letter : Char) : Act Bool := do
  return (← process).options.contains letter

/-! ## Streams -/

/-- A new channel. -/
def addChannel (c : Channel) : Act Nat :=
  modifyGet fun s =>
    let w := s.world
    (w.fresh, { s with
      world := { w with channels := (w.fresh, c) :: w.channels, fresh := w.fresh + 1 } })

/-- Changes what is behind a channel. -/
def setChannel (number : Nat) (c : Channel) : Act Unit :=
  changeWorld fun w =>
    { w with channels := (number, c) :: w.channels.filter fun other => other.1 != number }

/-- The channel of a stream, with its number. -/
def channel? (stream : Nat) : Act (Option (Nat × Channel)) := do
  let s ← get
  return (s.process.streams.lookup stream).bind fun number =>
    (s.world.channels.lookup number).map (number, ·)

/-- Lets a stream lead to a channel. -/
def setStream (stream number : Nat) : Act Unit :=
  changeProcess fun p =>
    { p with streams := (stream, number) :: p.streams.filter fun other => other.1 != stream }

/-- Closes a stream. -/
def closeStream (stream : Nat) : Act Unit :=
  changeProcess fun p => { p with streams := p.streams.filter fun other => other.1 != stream }

/-- Content with octets in place of those from an offset on. -/
def overwritten (content : Octets) (offset : Nat) (octets : Octets) : Octets :=
  let front := content.take offset
  front ++ List.replicate (offset - front.length) 0 ++ octets
    ++ content.drop (offset + octets.length)

/-- The octets in a file, none where there is no file. -/
def contentAt (files : FileSystem) (place : Location) : Octets :=
  match files.node? place with
  | some (.file f) => FileSystem.octetsOf f.content
  | _ => []

/-- Writes octets into a file that is open. -/
def writeFile (number : Nat) (place : Location) (mode : Opening) (offset : Nat)
    (octets : Octets) : Act Unit := do
  let files := (← world).files
  match files.node? place with
  | some (.file f) =>
    let old := FileSystem.octetsOf f.content
    let offset := if mode = .appending then old.length else offset
    setFiles (files.set place (.file { f with content := .octets (overwritten old offset octets) }))
    setChannel number (.file place mode (offset + octets.length))
  | _ => return

/-- Writes characters to a stream, and says whether that can be done. -/
def writeTo (stream : Nat) (cs : List Char) : Act Bool := do
  let octets := octetsOf cs
  match ← channel? stream with
  | some (_, .own .output) =>
    changeWorld fun w => { w with output := w.output ++ octets }
    return true
  | some (_, .own .errors) =>
    changeWorld fun w => { w with errors := w.errors ++ octets }
    return true
  | some (_, .nowhere) => return true
  | some (number, .pipe content) =>
    setChannel number (.pipe (content ++ octets))
    return true
  | some (_, .file _ .reading _) | none => return cs.isEmpty
  | some (number, .file place mode offset) =>
    writeFile number place mode offset octets
    return true

/-- Writes characters to the output. -/
def print (cs : List Char) : Act Bool :=
  writeTo 1 cs

/-- Writes characters to the errors. -/
def warn (cs : List Char) : Act Unit := do
  let _ ← writeTo 2 cs

/-- What can still be read from a stream. -/
def remaining (stream : Nat) : Act (List Char) := do
  match ← channel? stream with
  | some (_, .pipe content) => return charsOf content
  | some (_, .file place _ offset) =>
    return charsOf ((contentAt (← world).files place).drop offset)
  | _ => return []

/-- Takes so many octets off the front of what can be read. -/
def advance (stream count : Nat) : Act Unit := do
  match ← channel? stream with
  | some (number, .pipe content) => setChannel number (.pipe (content.drop count))
  | some (number, .file place mode offset) =>
    setChannel number (.file place mode (offset + count))
  | _ => return

/-- Reads all that is left of a stream. -/
def readAll (stream : Nat) : Act (List Char) := do
  let cs ← remaining stream
  advance stream cs.length
  return cs

/-! ## Complaints -/

/-- A complaint of the shell, which names the script and the line. -/
def complain (text : List Char) : Act Unit := do
  let p ← process
  let command := if p.command.isEmpty then [] else p.command ++ ": ".toList
  warn (p.name ++ ": ".toList ++ Numeral.decimal p.line ++ ": ".toList ++ command ++ text
    ++ ['\n'])

/-- A complaint of a program, which names the program. -/
def lament (name text : List Char) : Act Unit :=
  warn (name ++ ": ".toList ++ text ++ ['\n'])

/-- The end at a mistake of the script. -/
def refuse {α : Type} (text : String) : Act α := do
  complain text.toList
  throw (.fault 2)

/-! ## Processes -/

/-- Runs a step in a process that is gone afterwards. -/
def apart {α : Type} (a : Act α) : Act α := do
  let p ← process
  let result ← outcome a
  changeProcess fun _ => p
  ofOutcome result

/-- Runs a step with streams that are as they were afterwards. -/
def withStreams {α : Type} (a : Act α) : Act α := do
  let streams := (← process).streams
  let result ← outcome a
  changeProcess fun p => { p with streams }
  ofOutcome result

/-- Runs a step and takes what it writes to its output. -/
def capture {α : Type} (a : Act α) : Act (α × List Char) := do
  let number ← addChannel (.pipe [])
  let result ← withStreams do
    setStream 1 number
    a
  match (← world).channels.lookup number with
  | some (.pipe content) => return (result, charsOf content)
  | _ => return (result, [])

end Act

namespace State

/-- What a script takes before it does anything, so that it has done nothing
at the moment it is started. -/
def startup : Nat := 1

/-- The commands that a script may carry out. -/
def patience : Nat := 20000

/-- What was done by a moment, out of all that was kept, the latest first. -/
def doneBy (start : Doings) (moment : Nat) : List (Nat × Doings) → Doings
  | [] => start
  | (time, doings) :: rest => if time ≤ moment then doings else doneBy start moment rest

end State

end EmbeddedPython.Shell
