import EmbeddedPython.Shell.Builtin

/-!
# Carrying out commands

`Evaluate.command` carries out a command by one step: the commands inside it are
left to a `Runner`.  `runner` ties the knot, with commands inside commands up to
some depth.

With the option `e`, a command that fails without being tested is the end of the
script.
-/

namespace EmbeddedPython.Shell

namespace Evaluate

/-! ## Simple commands -/

/-- What a name stands for. -/
inductive Found where
  | builtin (special : Bool) (b : Builtin)
  | function (body : Command)
  | program (path : List Char)
  | missing

/-- What a name stands for.  A function may take the place of a command of the
shell unless that is a special one. -/
def find (name : List Char) (withFunctions : Bool) : Act Found := do
  let text := String.ofList name
  let special := Builtin.isSpecial text
  let p ← Act.process
  let body := if special || !withFunctions then none else p.functions.lookup text
  match body, Builtin.find? text with
  | some body, _ => return .function body
  | none, some b => return .builtin special b
  | none, none =>
    match ← Run.programPath? name with
    | some path => return .program path
    | none => return .missing

/-- The name and the value of a setting. -/
def settingOf (sub : Command → Act (List Char)) (w : Word) : Act (String × List Char) := do
  match w with
  | .text cs :: rest =>
    let name := cs.takeWhile (· != '=')
    let value ← Expand.valueTextOf sub (.text (cs.drop (name.length + 1)) :: rest)
    return (String.ofList name, value)
  | w => return ("", ← Expand.valueTextOf sub w)

/-- The arguments of a command.  Settings behind a name that sets variables are
not cut into fields. -/
def arguments (sub : Command → Act (List Char)) : List Word → Act (List (List Char))
  | [] => return []
  | w :: rest => do
    match ← Expand.fieldsOf sub w with
    | [] => arguments sub rest
    | name :: more =>
      let sets := Builtin.setting.contains (String.ofList name)
      let others ← rest.mapM fun w => do
        if sets && Reader.isSetting w then
          let (name, value) ← settingOf sub w
          return [name.toList ++ '=' :: value]
        else Expand.fieldsOf sub w
      return name :: more ++ others.flatten

/-- What stands in front of a command that is shown. -/
def markOf (sub : Command → Act (List Char)) : Act (List Char) := do
  let mark ← Act.valueOf "PS4"
  let w ← Act.world
  match Reader.textWord mark w.freshDocument with
  | .ok (word, i) =>
    Act.changeWorld fun w => { w with
      documents := i.documents ++ w.documents, freshDocument := i.fresh }
    let options := (← Act.process).options
    Act.changeProcess fun p => { p with options := p.options.filter (· != 'x') }
    let text ← Expand.textOf sub [.quotes word]
    Act.changeProcess fun p => { p with options }
    return text
  | .error _ => return mark

/-- Writes a command to the errors before it is carried out. -/
def trace (run : Runner) (errors : Option Nat) (settings : List (String × List Char))
    (args : List (List Char)) : Act Unit := do
  if ← Act.hasOption 'x' then
    let shown := settings.map (fun (name, value) => name.toList ++ '=' :: value) ++ args
    let mark ← markOf (Run.substitute run)
    Act.withStreams do
      if let some number := errors then Act.setStream 2 number
      Act.warn (mark ++ Tools.spaced shown ++ ['\n'])

/-- Runs a step with variables that get their old values back. -/
def shadowing {α : Type} (settings : List (String × List Char)) (a : Act α) : Act α := do
  let names := settings.map Prod.fst
  let old := (← Act.process).bindings.filter fun v => names.contains v.1
  for (name, value) in settings do
    if (← Act.variableNamed? name).any Variable.fixed then Act.refuse (name ++ ": is read only")
    Act.putVariable name ⟨some value, true, false⟩
  let result ← Act.outcome a
  Act.changeProcess fun p =>
    { p with bindings := old ++ p.bindings.filter fun v => !names.contains v.1 }
  Act.ofOutcome result

/-- The functions that may be under way at once. -/
def deepest : Nat := 1000

/-- Calls a function. -/
def call (run : Runner) (tested : Bool) (body : Command) (args : List (List Char)) :
    Act Nat := do
  let p ← Act.process
  if deepest ≤ p.calls then
    Act.refuse ("Maximum function recursion depth (" ++ Numeral.text deepest ++ ") reached")
  Act.changeProcess fun p => { p with
    arguments := args, calls := p.calls + 1, loops := 0, hidden := [] :: p.hidden }
  let result ← Act.outcome (run tested body)
  let hidden := (← Act.process).hidden.headD []
  for (name, old) in hidden do
    match old with
    | some v =>
      if name = Builtin.optionsName then
        Act.changeProcess fun p => { p with options := v.value.getD [] }
      else Act.putVariable name v
    | none => Act.dropVariable name
  Act.changeProcess fun q => { q with
    arguments := p.arguments, calls := p.calls, loops := p.loops, hidden := p.hidden }
  match result with
  | .error (.goBack status) => return status
  | .error stop => throw stop
  | .ok () => return (← Act.process).status

/-- Carries out a command of the shell. -/
def builtin (run : Runner) (tested special : Bool) (b : Builtin) (name : List Char)
    (args : List (List Char)) : Act Nat := do
  let command := (← Act.process).command
  Act.changeProcess fun p => { p with command := name }
  let result ← Act.outcome (b run tested name args)
  Act.changeProcess fun p => { p with command }
  match result with
  | .error (.fault status) => if special then throw (.fault status) else return status
  | result => Act.ofOutcome result

/-- Replaces the shell by a program. -/
def replace (run : Runner) : Builtin := fun _ _ _ args => do
  match args with
  | [] => return 0
  | name :: args =>
    match ← Run.programPath? name with
    | none =>
      Act.complain (name ++ ": not found".toList)
      throw (.leave 127)
    | some path =>
      Act.changeProcess fun p => { p with traps := p.traps.filter fun t => t.2.isEmpty }
      let p ← Act.process
      let number ← if Run.isForked p then Run.freshNumber else pure p.number
      throw (.leave (← Run.program run number path name args))

/-- What is said about a name, in few words or in many. -/
def describe (brief : Bool) (name : List Char) : Act Nat := do
  let text := String.ofList name
  let say (long : String) : Act Nat :=
    Tools.printing ((if brief then text else text ++ long) ++ "\n").toList
  if Reader.keywords.contains text then say " is a shell keyword"
  else if let some long := (← Act.process).abbreviations.lookup text then
    if brief then Tools.printing ("alias ".toList ++ Builtin.shownAbbreviation text long)
    else say (" is an alias for " ++ String.ofList long)
  else if Builtin.isSpecial text then say " is a special shell builtin"
  else if (← Act.process).functions.any (·.1 = text) then say " is a shell function"
  else if Builtin.isKnown text then say " is a shell builtin"
  else
    match ← Run.programPath? name with
    | some path =>
      if Run.isThere (← Act.files) path then
        Tools.printing ((if brief then [] else name ++ " is ".toList) ++ path ++ ['\n'])
      else
        if !brief then let _ ← Act.print (name ++ ": not found\n".toList)
        return 127
    | none =>
      if !brief then let _ ← Act.print (name ++ ": not found\n".toList)
      return 127

/-- Says what names stand for. -/
def type : Builtin := fun _ _ _ args => do
  let statuses ← args.mapM (describe false)
  return statuses.foldl max 0

/-- Looks for commands, to find them faster later on. -/
def hash : Builtin := fun _ _ _ args =>
  Tools.forEach args fun name => do
    let text := String.ofList name
    let isKnown := Builtin.isKnown text || ((← Act.process).functions.lookup text).isSome
    if isKnown || (← Run.programPath? name).isSome then return true
    else
      Act.complain (name ++ ": not found".toList)
      return false

/-- The commands that look for others. -/
def searching : List (String × Builtin) :=
  [("type", type), ("hash", hash)]

/-- Carries out what a name stands for. -/
def named (run : Runner) (tested withFunctions : Bool) (name : List Char)
    (args : List (List Char)) : Act Nat := do
  match ← find name withFunctions with
  | .builtin special b => builtin run tested (special && withFunctions) b name args
  | .function body => call run tested body args
  | .program path => Run.start run path name args
  | .missing =>
    let files ← Act.files
    let isDirectory := (← Run.candidates name).any fun path => files.isDirectory (pathOf path)
    Act.complain (name ++ (if isDirectory then ": Permission denied" else ": not found").toList)
    return 127

/-- Carries out a command that no function may take the place of, or says what
it is.  The steps bound the commands that are named so. -/
def plainly (run : Runner) (tested : Bool) : Nat → List (List Char) → Act Nat
  | 0, _ => return 0
  | steps + 1, args => do
    match args with
    | [] => return 0
    | ['-', 'v'] :: name :: _ => describe true name
    | ['-', 'V'] :: name :: _ => describe false name
    | ['-', 'p'] :: rest | ['-', '-'] :: rest => plainly run tested steps rest
    | name :: args =>
      match String.ofList name with
      | "command" => plainly run tested steps args
      | "exec" => builtin run tested false (replace run) name args
      | text =>
        match searching.lookup text with
        | some b => builtin run tested false b name args
        | none => named run tested false name args

/-- Carries out the command with a name. -/
def perform (run : Runner) (tested : Bool) (name : List Char) (args : List (List Char)) :
    Act Nat := do
  match String.ofList name with
  | "exec" => builtin run tested true (replace run) name args
  | "command" => plainly run tested (args.length + 2) args
  | text =>
    match searching.lookup text, (← Act.process).functions.lookup text with
    | some b, none => builtin run tested false b name args
    | _, _ => named run tested true name args

/-- Carries redirections out.  The answer is whether that was possible. -/
def redirected (run : Runner) (changes : List Redirect.Ready) : Act Bool := do
  match ← Act.outcome (Redirect.applyAll (Run.substitute run) changes) with
  | .ok () => return true
  | .error (.fault _) => return false
  | .error stop => throw stop

/-- Carries out a simple command. -/
def simple (run : Runner) (tested : Bool) (settings words : List Word)
    (changes : List Redirection) : Act Nat := do
  let sub := Run.substitute run
  let args ← arguments sub words
  let changes ← changes.mapM (Redirect.expand sub)
  let errors := (← Act.channel? 2).map Prod.fst
  let name := args.headD []
  let special := Builtin.isSpecial (String.ofList name)
  let body : Act Nat := do
    if !(← redirected run changes) then
      if special then throw (.fault 2) else return 2
    else if special || args.isEmpty then
      let settings ← settings.mapM fun w => do
        let (name, value) ← settingOf sub w
        Expand.assign name value
        return (name, value)
      trace run errors settings args
      if args.isEmpty then return (← Act.process).substituted
      else perform run tested name (args.drop 1)
    else
      let settings ← settings.mapM (settingOf sub)
      trace run errors settings args
      shadowing settings (perform run tested name (args.drop 1))
  if args = ["exec".toList] then body else Act.withStreams body

/-! ## Loops -/

/-- Runs one round of a loop.  The answer is whether there may be another. -/
def round (a : Act Unit) : Act Bool := do
  let loops := (← Act.process).loops
  Act.changeProcess fun p => { p with loops := loops + 1 }
  let result ← Act.outcome a
  Act.changeProcess fun p => { p with loops }
  match result with
  | .ok () | .error (.nextRound 1) => return true
  | .error (.breakLoops 1) => return false
  | .error (.nextRound count) => throw (.nextRound (count - 1))
  | .error (.breakLoops count) => throw (.breakLoops (count - 1))
  | .error stop => throw stop

/-- Runs rounds as long as they may go on, with the status of the last body. -/
def rounds (condition : Act Bool) (body : Act Unit) : Nat → Nat → Act Nat
  | 0, _ => throw .stuck
  | steps + 1, status => do
    Act.spend
    let goesOn ← round do
      Act.setStatus status
      if ← condition then body
      else
        Act.setStatus status
        throw (.breakLoops 1)
    let status := (← Act.process).status
    if goesOn then rounds condition body steps status else return status

/-- Runs a loop over values. -/
def eachOf (name : String) (body : Act Unit) : List (List Char) → Nat → Act Nat
  | [], status => return status
  | value :: rest, status => do
    Act.spend
    let goesOn ← round do
      Expand.assign name value
      Act.setStatus status
      body
    let status := (← Act.process).status
    if goesOn then eachOf name body rest status else return status

/-- The command of the first clause with a pattern that a text fits. -/
def clauseFor (sub : Command → Act (List Char)) (subject : List Char) :
    List (List Word × Command) → Act (Option Command)
  | [] => return none
  | (patterns, body) :: rest => do
    if ← patterns.anyM fits then return some body else clauseFor sub subject rest
where
  /-- The text fits a pattern. -/
  fits (w : Word) : Act Bool := do
    let items ← Expand.word sub false (← Expand.withHome (· == '/') w)
    return (Expand.patternOf items).fits subject

/-! ## Processes -/

/-- What a process writes into a pipe when it never ends counts as all there is,
since nobody reads on. -/
def untilReaderEnds (a : Act Nat) : Act Nat := do
  match ← Act.outcome a with
  | .ok status => return status
  | .error .stuck =>
    Act.changeWorld fun w => { w with patience := State.patience / 4 }
    return Tools.statusOf 13
  | .error stop => throw stop

/-- Runs the commands of a pipeline, each reading what the one before it wrote.
They all begin at one time. -/
def piped (run : Runner) (start : Nat) : Nat → List Command → Act Nat
  | _, [] => return 0
  | latest, [last] => do
    let status ← Run.forked run (run false last)
    Act.sleep (latest - (← Act.world).time)
    return status
  | latest, c :: rest => do
    let number ← Act.addChannel (.pipe [])
    let _ ← Act.withStreams do
      Act.setStream 1 number
      untilReaderEnds (Run.forked run (run false c))
    let latest := max latest (← Act.world).time
    Act.changeWorld fun w => { w with time := start }
    Act.withStreams do
      Act.setStream 0 number
      piped run start latest rest

/-- Leaves a command to run on its own. -/
def leaveBehind (c : Command) : Act Unit := do
  let number ← Run.freshNumber
  let p ← Act.process
  let start := (← Act.world).time
  let silent ← Act.addChannel .nowhere
  let streams := (0, silent) :: p.streams.filter fun s => s.1 != 0
  Act.changeWorld fun w => { w with jobs := w.jobs ++ [⟨number, start, c, { p with streams }⟩] }
  Act.changeProcess fun p =>
    { p with lastJob := number, jobNumbers := p.jobNumbers ++ [number], status := 0 }

/-! ## Commands -/

/-- The end of the script at a failure, unless nobody asked for it. -/
def leaveOnFailure (tested : Bool) : Act Unit := do
  let status := (← Act.process).status
  if status != 0 && !tested && (← Act.hasOption 'e') then throw (.leave status)

/-- Sets the status of a command, and sees to signals and failures. -/
def conclude (run : Runner) (tested : Bool) (status : Nat) : Act Unit := do
  Act.setStatus status
  if !(← Act.world).jobs.isEmpty then Run.settle run
  Run.traps run
  leaveOnFailure tested

/-- Carries out a command. -/
def command (run : Runner) (tested : Bool) (c : Command) : Act Unit := do
  if ← Act.hasOption 'n' then return
  match c with
  | .idle => return
  | .simple line settings words changes =>
    Act.spend
    Act.changeProcess fun p => { p with line, substituted := 0 }
    conclude run tested (← simple run tested settings words changes)
  | .redirected line c changes =>
    Act.changeProcess fun p => { p with line }
    let changes ← changes.mapM (Redirect.expand (Run.substitute run))
    Act.withStreams do
      if ← redirected run changes then run tested c else Act.setStatus 2
  | .sequence first second =>
    run tested first
    run tested second
  | .both first second =>
    run true first
    if (← Act.process).status = 0 then run tested second
  | .either first second =>
    run true first
    if (← Act.process).status != 0 then run tested second
  | .negation c =>
    run true c
    Act.setStatus (if (← Act.process).status = 0 then 1 else 0)
  | .pipeline cs =>
    let start := (← Act.world).time
    conclude run tested (← piped run start start cs)
  | .subshell line c changes =>
    Act.changeProcess fun p => { p with line }
    let changes ← changes.mapM (Redirect.expand (Run.substitute run))
    conclude run tested (← Run.forked run do
      Redirect.applyAll (Run.substitute run) changes
      run tested c)
  | .background c => leaveBehind c
  | .choice condition yes no =>
    run true condition
    if (← Act.process).status = 0 then run tested yes
    else
      match no with
      | .idle => Act.setStatus 0
      | no => run tested no
  | .loop untilSuccess condition body =>
    let holds : Act Bool := do
      run true condition
      return ((← Act.process).status = 0) != untilSuccess
    Act.setStatus (← rounds holds (run tested body) (State.patience + 1) 0)
  | .each line name words body =>
    Act.changeProcess fun p => { p with line }
    let values ← Expand.fieldsOfAll (Run.substitute run) words
    Act.setStatus (← eachOf name (run tested body) values 0)
  | .select line subject clauses =>
    Act.changeProcess fun p => { p with line }
    let sub := Run.substitute run
    let subject ← Expand.textOf sub subject
    match ← clauseFor sub subject clauses with
    | none | some .idle => Act.setStatus 0
    | some c => run tested c
  | .definition _ name body =>
    Act.changeProcess fun p => { p with
      functions := (name, body) :: p.functions.filter fun f => f.1 != name }
    Act.setStatus 0

/-- The shells that no script starts inside one another unless it goes on for
ever. -/
def manyShells : Nat := 100

end Evaluate

/-- The runner of commands inside commands up to some depth, which the stack of
a shell has as well.  Shells that start one another for ever have stacks of
their own. -/
def runner : Nat → Runner
  | 0 => fun _ _ => do
    let p ← Act.process
    if p.parents.length < Evaluate.manyShells then throw (.killed p.number Tools.stackSignal)
    else throw .stuck
  | depth + 1 => fun tested c => Evaluate.command (runner depth) tested c

end EmbeddedPython.Shell
