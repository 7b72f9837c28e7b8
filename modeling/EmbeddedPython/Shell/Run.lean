import EmbeddedPython.Shell.Image
import EmbeddedPython.Shell.Redirect

/-!
# Running commands

What a script does with its commands other than one by one: it reads them off a
text (`Run.text`), runs them in a process of their own (`Run.forked`), takes
their output into a word (`Run.substitute`), starts programs (`Run.start`) and
waits for what it did not wait for (`Run.await`).

How a single command is carried out is a parameter of all of this, a `Runner`.
-/

namespace EmbeddedPython.Shell

/-- Carries out a command.  One that is tested may fail without an end of the
script. -/
abbrev Runner := (tested : Bool) → Command → Act Unit

namespace Run

/-! ## Texts -/

/-- So many lines at the front of a text. -/
def frontLines : Nat → List Char → List Char
  | 0, _ => []
  | _, [] => []
  | count + 1, c :: rest => c :: frontLines (if c = '\n' then count else count + 1) rest

/-- Writes lines that were read to the errors, if that is asked for. -/
def echoLines (shown : Bool) (lines : List Char) : Act Unit := do
  if shown && (← Act.hasOption 'v') then Act.warn lines

/-- Reads the next command, and takes over the documents that it holds.  The
lines of a file are `shown` if that is asked for. -/
def nextCommand (shown : Bool) (i : Reader.Input) : Act (Option Command × Reader.Input) := do
  let i := { i with
    fresh := max i.fresh (← Act.world).freshDocument
    abbreviations := (← Act.process).abbreviations }
  match Reader.next? i with
  | .error refusal =>
    echoLines shown (frontLines (refusal.line + 1 - i.line) i.rest)
    Act.changeProcess fun p => { p with line := refusal.line }
    Act.refuse refusal.text
  | .ok (command, after) =>
    echoLines shown (i.rest.take (i.rest.length - after.rest.length))
    Act.changeWorld fun w => { w with
      documents := after.documents ++ w.documents, freshDocument := after.fresh }
    Act.changeProcess fun p => { p with lineRead := after.line }
    return (command, { after with documents := [], underWay := [], goesOnAt := none })

/-- Runs the commands that are left of a text, with the status behind them, up
to some number of commands. -/
def commandsOf (run : Runner) (tested shown : Bool) : Nat → Reader.Input → Nat → Act Nat
  | 0, _, status => return status
  | steps + 1, i, status => do
    match ← nextCommand shown i with
    | (none, _) => return status
    | (some .idle, i) => commandsOf run tested shown steps i status
    | (some c, i) =>
      if !(← Act.hasOption 'n') then run tested c
      commandsOf run tested shown steps i (← Act.process).status

/-- The commands that a text may hold.  Each of them takes a character of it, or
one of what stands in for a name. -/
def mostIn (cs : List Char) : Nat :=
  (cs.length + 2) * State.patience

/-- Runs the commands of a text.  The status is that of the last one, or zero. -/
def text (run : Runner) (tested : Bool) (cs : List Char) : Act Nat :=
  commandsOf run tested false (mostIn cs) (.ofScript cs 0) 0

/-- Runs the commands of a file, in which zeros do not count. -/
def script (run : Runner) (cs : List Char) : Act Nat :=
  let cs := cs.filter (· != '\x00')
  commandsOf run false true (mostIn cs) (.ofScript cs 0) 0

/-! ## Traps -/

/-- Does what a trap says.  The status stays what it was. -/
def trap (run : Runner) (action : List Char) : Act Unit := do
  let p ← Act.process
  let status := p.status
  Act.changeProcess fun p => { p with statusBefore := some (p.statusBefore.getD status) }
  let _ ← text run false action
  Act.changeProcess fun q => { q with status, statusBefore := p.statusBefore }

/-- A process that has the number of a shell above it. -/
def isForked (p : Process) : Bool :=
  (p.parents.lookup p.number).isSome

/-- Takes the signals that processes below sent to this shell. -/
def receive : Act Unit := do
  let p ← Act.process
  let sent := (← Act.world).sent
  if !sent.isEmpty && !isForked p then
    Act.changeWorld fun w => { w with sent := sent.filter (·.1 != p.number) }
    Act.changeProcess fun p =>
      { p with signals := p.signals ++ (sent.filter (·.1 = p.number)).map Prod.snd }

/-- The signal of a process that ended below. -/
def childSignal : Nat := 17

/-- Takes note of the end of a process below. -/
def noteEnd : Act Unit := do
  Act.changeWorld fun w => { w with isLater := true }
  Act.changeProcess fun p =>
    match p.traps.lookup childSignal with
    | some (_ :: _) => { p with signals := (p.signals.filter (· != childSignal)) ++ [childSignal] }
    | _ => p

/-- Does what is to be done at the signals that came. -/
def traps (run : Runner) : Act Unit := do
  receive
  let p ← Act.process
  if p.signals.isEmpty then return
  else
    Act.changeProcess fun p => { p with signals := [] }
    for signal in p.signals do
      match p.traps.lookup signal with
      | some action => trap run action
      | none => pure ()

/-- The status that a stop of a process leaves, if it is the end of no more than
that process. -/
def statusOf (before : Nat) : Stop → Option Nat
  | .leave status | .fault status | .goBack status => some status
  | .breakLoops _ | .nextRound _ => some before
  | .killed _ _ | .stuck => none

/-- Does what is to be done at the end of a process, and gives its status. -/
def atEnd (run : Runner) : Act Nat := do
  let p ← Act.process
  match p.traps.lookup 0 with
  | none | some [] => return p.status
  | some action =>
    Act.changeProcess fun p => { p with traps := p.traps.filter fun t => t.1 != 0, command := [] }
    match ← Act.outcome (trap run action) with
    | .ok () | .error (.goBack _) => return p.status
    | .error stop =>
      match statusOf p.status stop with
      | some status => return status
      | none => throw stop

/-- Runs a step to the end of its process, and gives the status. -/
def toEnd (run : Runner) (a : Act Unit) : Act Nat := do
  match ← Act.outcome a with
  | .ok () => atEnd run
  | .error stop =>
    match statusOf (← Act.process).status stop with
    | some status =>
      Act.setStatus status
      atEnd run
    | none => throw stop

/-! ## Processes -/

/-- What becomes of a process when it is one of its own: signals are dealt with
as by themselves, unless they are ignored. -/
def separate (p : Process) : Process :=
  { p with
    parents := if isForked p then p.parents else (p.number, p.traps) :: p.parents
    traps := p.traps.filter fun t => t.2.isEmpty && t.1 != 0
    signals := [] }

/-- Runs a step in a process of its own, and gives the status. -/
def forked (run : Runner) (a : Act Unit) : Act Nat := do
  let status ← Act.apart do
    Act.changeProcess separate
    toEnd run a
  noteEnd
  return status

/-- Runs a command that was not waited for, and gives the moment of its end.  It
begins at its own time. -/
def job (run : Runner) (j : Job) : Act Nat := do
  let now := (← Act.world).time
  Act.changeWorld fun w => { w with
    time := j.start, jobs := w.jobs.filter (·.number != j.number) }
  let result ← Act.apart do
    Act.changeProcess fun _ => j.process
    Act.outcome (forked run (run false j.command))
  let status ← match result with
    | .ok status => pure status
    | .error (.killed number signal) =>
      if number = j.process.number then throw (.killed number signal)
      pure (Tools.statusOf signal)
    | .error stop => throw stop
  let ended := (← Act.world).time
  Act.changeWorld fun w => { w with time := now, finished := (j.number, status) :: w.finished }
  return ended

/-- Waits for a command that was not waited for, and gives its status. -/
def awaitJob (run : Runner) (number : List Char) : Act (Option Nat) := do
  if let some j := (← Act.world).jobs.find? (·.number = number) then
    let ended ← job run j
    let now := (← Act.world).time
    Act.sleep (ended - now)
  return (← Act.world).finished.lookup number

/-- Waits for every command that was not waited for.  Each of them may leave
others behind, up to some number. -/
def awaitAll (run : Runner) : Nat → Act Unit
  | 0 => return
  | steps + 1 => do
    match (← Act.world).jobs with
    | [] => return
    | j :: _ =>
      let _ ← awaitJob run j.number
      awaitAll run steps

/-- The commands that a script may leave behind. -/
def mostJobs : Nat := 1000

/-- Runs a command that was not waited for, if it has ended by now.  It may have
ended this shell. -/
def settleJob (run : Runner) (j : Job) : Act Unit := do
  let before ← get
  match ← Act.outcome (job run j) with
  | .ok ended => if before.world.time < ended then set before
  | .error (.killed number signal) =>
    let isPast := (← Act.world).time ≤ before.world.time
    if number = before.process.number && isPast then throw (.killed number signal)
    else set before
  | .error _ => set before

/-- Runs those commands that were not waited for and that have ended by now.
They are slower than what the shell does itself. -/
def settle (run : Runner) : Act Unit := do
  let w ← Act.world
  Act.changeWorld fun w => { w with isLater := false }
  if w.isLater then w.jobs.forM (settleJob run)

/-- The output of a command as it goes into a word. -/
def substitute (run : Runner) (c : Command) : Act (List Char) := do
  let (status, output) ← Act.capture do
    let status ← forked run (run false c)
    awaitAll run mostJobs
    pure status
  Act.changeProcess fun p => { p with substituted := status }
  return output

/-! ## Programs -/

/-- The variables of a shell when it starts, beside those it inherits. -/
def ownVariables (directory parent : List Char) : List (String × List Char) :=
  [("IFS", [' ', '\t', '\n']), ("OPTIND", ['1']), ("PS1", ['#', ' ']), ("PS2", ['>', ' ']),
    ("PS4", ['+', ' ']), ("PPID", parent), ("PWD", directory)]

/-- The process of a shell that starts in a process. -/
def shellProcess (p : Process) (directory number name : List Char) : Process :=
  let inherited := p.bindings.filter fun v => v.2.exported && v.1 != "IFS"
  let parent := (p.parents.head?.map Prod.fst).getD ['1']
  let own := (ownVariables directory parent).filterMap fun (name, value) =>
    match inherited.lookup name with
    | some v => if name = "PWD" then some (name, { v with value := some value }) else none
    | none => some (name, ⟨some value, false, false⟩)
  { p with
    name, number, command := [], arguments := [], functions := [], abbreviations := [], options := []
    bindings := own ++ inherited.filter fun v => (own.lookup v.1).isNone
    traps := p.traps.filter fun t => t.2.isEmpty
    signals := [], status := 0, statusBefore := none, substituted := 0, line := 0, lineRead := 0, loops := 0, calls := 0
    hidden := [], lastJob := [], jobNumbers := [], optionsSeen := 0 }

/-- The names of options and their letters; some have none. -/
def optionNames : List (String × Option Char) :=
  [("errexit", some 'e'), ("noglob", some 'f'), ("ignoreeof", some 'I'), ("interactive", some 'i'),
    ("monitor", some 'm'), ("noexec", some 'n'), ("stdin", some 's'), ("xtrace", some 'x'),
    ("verbose", some 'v'), ("vi", some 'V'), ("emacs", some 'E'), ("noclobber", some 'C'),
    ("allexport", some 'a'), ("notify", some 'b'), ("nounset", some 'u'), ("privileged", some 'p'),
    ("nolog", none), ("debug", none)]

/-- Sets an option or takes it back.  Nobody can control jobs here. -/
def setOption (on : Bool) (letter : Char) : Act Unit :=
  if on && letter = 'm' then
    Act.complain "can't access tty; job control turned off".toList
  else
    Act.changeProcess fun p =>
      { p with options := if on then p.options.filter (· != letter) ++ [letter]
        else p.options.filter (· != letter) }

/-- Sets the option with a name or takes it back. -/
def setNamedOption (on : Bool) (name : List Char) : Act Unit := do
  match optionNames.lookup (String.ofList name) with
  | some (some letter) => setOption on letter
  | some none => return
  | none => Act.refuse ("Illegal option " ++ (if on then "-" else "+") ++ "o "
      ++ String.ofList name)

/-- Reads the options in front of the arguments of a shell, and whether a
command follows them. -/
def shellOptions : List (List Char) → Bool → Act (Bool × List (List Char))
  | [], given => return (given, [])
  | ['-', '-'] :: rest, given => return (given, rest)
  | ['-'] :: rest, given => return (given, rest)
  | (sign :: letter :: letters) :: rest, given => do
    if sign != '-' && sign != '+' then return (given, (sign :: letter :: letters) :: rest)
    else if letter :: letters = ['o'] then
      match rest with
      | name :: rest =>
        setNamedOption (sign = '-') name
        shellOptions rest given
      | [] => return (given, [])
    else
      for l in letter :: letters do
        if l != 'c' then
          if Act.optionLetters.contains l then setOption (sign = '-') l
          else Act.refuse ("Illegal option " ++ sign.toString ++ l.toString)
      shellOptions rest (given || (letter :: letters).contains 'c')
  | args, given => return (given, args)

/-- What a shell runs, with its name and its arguments. -/
def shellSource (given : Bool) (name : List Char) (args : List (List Char)) :
    Act (List Char × List Char × List (List Char)) := do
  if given then
    match args with
    | [] => Act.refuse "-c requires an argument"
    | [script] => return (script, name, [])
    | script :: name :: args => return (script, name, args)
  else
    match args with
    | [] => return (← Act.readAll 0, name, [])
    | file :: rest =>
      if ← Act.hasOption 's' then return (← Act.readAll 0, name, args)
      else
        match ← Tools.contentOf file with
        | .ok content => return (content, file, rest)
        | .error fault =>
          Act.refuse ("cannot open " ++ String.ofList file ++ ": "
            ++ Redirect.reason .reading fault)

/-- Runs a shell with a number to its end. -/
def shell (run : Runner) (number name : List Char) (args : List (List Char)) : Act Nat := do
  let directory ← Tools.workingDirectory
  Act.changeProcess fun p => shellProcess p directory number name
  toEnd run do
    let (given, args) ← shellOptions args false
    let (source, name, args) ← shellSource given name args
    Act.changeProcess fun p => { p with name, arguments := args, line := 1 }
    let _ ← if given then text run false source else script run source

/-- Sets variables as a program does that starts another one, and gives the
arguments behind the settings. -/
def settings : List (List Char) → Act (List (List Char))
  | [] => return []
  | ['-', 'i'] :: rest | ['-'] :: rest => do
    Act.changeProcess fun p => { p with bindings := [] }
    settings rest
  | ['-', 'u'] :: name :: rest => do
    Act.dropVariable (String.ofList name)
    settings rest
  | ['-', '-'] :: rest => settings rest
  | arg :: rest => do
    let name := arg.takeWhile (· != '=')
    if name.length = arg.length then return arg :: rest
    else
      Act.putVariable (String.ofList name) ⟨some (arg.drop (name.length + 1)), true, false⟩
      settings rest

/-- The paths where a program with a name may be. -/
def candidates (name : List Char) : Act (List (List Char)) := do
  if name.contains '/' then return [name]
  else
    let path ← Act.value? "PATH"
    let entries := (Path.splitAt 0x3A (octetsOf (path.getD "/usr/bin:/bin".toList))).map charsOf
    return entries.map fun entry => if entry.isEmpty then name else entry ++ ['/'] ++ name

/-- A program that is found is a file. -/
def isThere (files : FileSystem) (path : List Char) : Bool :=
  (Tools.programAt? path).isSome || files.isFile (pathOf path)

/-- The path of the program with a name. -/
def programPath? (name : List Char) : Act (Option (List Char)) := do
  if name.contains '/' then return some name
  else return (← candidates name).find? (isThere (← Act.files))

/-- What a program starts that is given a name and arguments. -/
def named (name : List Char) (args : List (List Char)) : Act (Except FileFault Image) := do
  match ← programPath? name with
  | some path => return Image.orScript (← Act.files) path name args
  | none => return .error .notFound

/-- The words between blanks. -/
def wordsOf : List Char → List (List Char)
  | [] => []
  | c :: rest =>
    if Sum.isBlank c then wordsOf rest
    else
      match rest.head?, wordsOf rest with
      | some d, first :: more =>
        if Sum.isBlank d then [c] :: first :: more else (c :: first) :: more
      | _, words => [c] :: words

/-- The arguments, the first of which may hold several. -/
def cutArguments : List (List Char) → List (List Char)
  | ('-' :: 'S' :: text) :: rest => wordsOf text ++ rest
  | args => args

/-- Runs a program to its end in this process, which has a number.  A program
may start another one that does the same, up to some depth. -/
def imageIn (run : Runner) (number : List Char) : Nat → Image → Act Nat
  | 0, _ => throw .stuck
  | depth + 1, i => do
    match i.program with
    | .tool t => toEnd run (do Act.setStatus (← t i.name i.args))
    | .shell => shell run number i.name i.args
    | .environment =>
      match ← settings (cutArguments i.args) with
      | [] => Tools.printenv i.name []
      | name :: args =>
        match ← named name args with
        | .ok other => imageIn run number depth other
        | .error fault =>
          Act.lament i.name (Tools.inQuotes name ++ ": ".toList ++ Tools.reason fault)
          return if fault = .notFound || fault = .notDirectory then 127 else 126

/-- The programs that may start one another in a process. -/
def mostStarts : Nat := 1000

/-- Runs a program to its end in this process, which has a number. -/
def image (run : Runner) (number : List Char) (i : Image) : Act Nat := do
  Act.changeProcess fun p => { p with command := [] }
  imageIn run number mostStarts i

/-- What the shell says about a program that cannot be started. -/
def startFault (fault : FileFault) : String × Nat :=
  match fault with
  | .notFound | .notDirectory => ("not found", 127)
  | .nameTooLong | .tooManyLevels => (String.ofList (Tools.reason fault), 127)
  | fault => (String.ofList (Tools.reason fault), 126)

/-- Runs the program at a path to its end in this process, or says why that
cannot be. -/
def program (run : Runner) (number path name : List Char) (args : List (List Char)) :
    Act Nat := do
  match Image.orScript (← Act.files) path name args with
  | .ok i => image run number i
  | .error fault =>
    let (text, status) := startFault fault
    Act.complain (name ++ ": ".toList ++ text.toList)
    return status

/-- A number that no process has yet. -/
def freshNumber : Act (List Char) := do
  let count := (← Act.world).processes + 1
  Act.changeWorld fun w => { w with processes := count }
  return (← Act.process).number ++ ['.'] ++ Numeral.decimal count

/-- Starts the program at a path and waits for its end.  A signal that ends it
is told of. -/
def start (run : Runner) (path name : List Char) (args : List (List Char)) : Act Nat := do
  let number ← freshNumber
  match ← Act.outcome (Act.apart do
      Act.changeProcess fun p => { separate p with traps := p.traps.filter fun t => t.2.isEmpty }
      program run number path name args) with
  | .ok status =>
    noteEnd
    return status
  | .error (.killed target signal) =>
    if target != number then throw (.killed target signal)
    noteEnd
    if let some text := Tools.endingText? signal then Act.warn (text.toList ++ ['\n'])
    return Tools.statusOf signal
  | .error stop => throw stop

end Run

end EmbeddedPython.Shell
