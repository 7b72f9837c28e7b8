import EmbeddedPython.Shell.Tools.Files

/-!
# Signals

The signals by their names and numbers, what they do to a process that does not
deal with them, and the command `kill`.
-/

namespace EmbeddedPython.Shell.Tools

/-- The names of the signals from one on. -/
def signalNames : List String :=
  (ExitStatus.signalNames.map fun (n, name) =>
      if n = 16 then "16" else String.ofList (name.toList.drop 3))
    ++ ["32", "33", "RTMIN"]
    ++ (List.range 15).map (fun n => "RTMIN+" ++ Numeral.text (n + 1))
    ++ (List.range 14).map (fun n => "RTMAX-" ++ Numeral.text (14 - n))
    ++ ["RTMAX"]

/-- The signal that a name or a number stands for.  The end of the script counts
as the signal zero. -/
def signal? (cs : List Char) : Option Nat :=
  match Numeral.value? cs with
  | some n => if n ≤ signalNames.length then some n else none
  | none =>
    let upper := String.ofList (cs.map Char.toUpper)
    if upper = "EXIT" then some 0
    else (signalNames.findIdx? (· = upper)).map (· + 1)

/-- The name of a signal. -/
def signalName (signal : Nat) : String :=
  if signal = 0 then "EXIT" else signalNames.getD (signal - 1) ""

/-- The signal of a process whose stack is full. -/
def stackSignal : Nat := 11

/-- What a signal does to a process that does not deal with it. -/
inductive Effect where
  | ignored
  | stopped
  | ended
deriving Repr, DecidableEq

/-- The effect of a signal. -/
def effectOf (signal : Nat) : Effect :=
  if [0, 17, 18, 23, 28].contains signal then .ignored
  else if [19, 20, 21, 22].contains signal then .stopped
  else .ended

/-- What the shell says about a program that a signal ended, if anything. -/
def endingText? (signal : Nat) : Option String :=
  if 34 ≤ signal then some ("Real-time signal " ++ Numeral.text (signal - 34))
  else [(1, "Hangup"), (3, "Quit"), (4, "Illegal instruction"), (5, "Trace/breakpoint trap"),
    (6, "Aborted"), (7, "Bus error"), (8, "Floating point exception"), (9, "Killed"),
    (10, "User defined signal 1"), (11, "Segmentation fault"), (12, "User defined signal 2"),
    (14, "Alarm clock"), (15, "Terminated"), (16, "Stack fault"), (24, "CPU time limit exceeded"),
    (25, "File size limit exceeded"), (26, "Virtual timer expired"),
    (27, "Profiling timer expired"), (29, "I/O possible"), (30, "Power failure"),
    (31, "Bad system call")].lookup signal

/-- The status of a process that a signal ended. -/
def statusOf (signal : Nat) : Nat :=
  128 + signal

/-- What becomes of a signal to a shell of some number that does things at
signals: it is `kept` if something is to be done. -/
def deliver (traps : List (Nat × List Char)) (number : List Char) (signal : Nat)
    (kept : Act Unit) : Act Unit := do
  match traps.lookup signal, effectOf signal with
  | some action, _ =>
    if signal = 9 then throw (.killed number signal)
    else if action.isEmpty then return
    else kept
  | none, .ignored => return
  | none, .stopped => throw .stuck
  | none, .ended => throw (.killed number signal)

/-- Sends a signal to the shell. -/
def sendToShell (number : List Char) (signal : Nat) : Act Unit := do
  deliver (← Act.process).traps number signal
    (Act.changeProcess fun p => { p with signals := p.signals ++ [signal] })

/-- Sends a signal to a shell above this one, which does things at signals. -/
def sendAbove (traps : List (Nat × List Char)) (number : List Char) (signal : Nat) : Act Unit :=
  deliver traps number signal
    (Act.changeWorld fun w => { w with sent := w.sent ++ [(number, signal)] })

/-- Sends a signal to a command that was not waited for. -/
def sendToJob (number : List Char) (signal : Nat) : Act Unit :=
  if effectOf signal = .ended then
    Act.changeWorld fun w => { w with
      jobs := w.jobs.filter (·.number != number)
      finished := (number, statusOf signal) :: w.finished }
  else return

/-- The number of the process that an argument with a percent sign names. -/
def jobNamed? (arg : List Char) : Act (Option (List Char)) := do
  let numbers := (← Act.process).jobNumbers
  match arg with
  | ['%'] | ['%', '%'] | ['%', '+'] => return numbers.getLast?
  | ['%', '-'] => return numbers.dropLast.getLast?
  | '%' :: digits =>
    match Numeral.value? digits with
    | some n => return if n = 0 then none else numbers[n - 1]?
    | none => return none
  | _ => return none

/-- Sends a signal to a process, and says whether there is one. -/
def send (signal : Nat) (target : List Char) : Act Bool := do
  let p ← Act.process
  if let some traps := p.parents.lookup target then
    sendAbove traps target signal
    return true
  else if target = p.number then
    sendToShell target signal
    return true
  else if (← Act.world).jobs.any (·.number = target) then
    sendToJob target signal
    return true
  else
    if target.head? == some '%' then
      if (← jobNamed? target).isNone then Act.refuse ("No such job: " ++ String.ofList target)
    else
      let number := target.dropWhile (· == '-')
      let isKnown := number = p.number || ((← Act.world).finished.lookup number).isSome
      if (Numeral.value? number).isNone && !isKnown then
        Act.refuse ("Illegal number: " ++ String.ofList target)
    Act.complain "No such process\n".toList
    return false

/-- The end of a command that was called in a wrong way. -/
def killUsage {α : Type} : Act α :=
  Act.refuse
    "Usage: kill [-s sigspec | -signum | -sigspec] [pid | job]... or\nkill -l [exitstatus]"

/-- Lists signals. -/
def listSignals (args : List (List Char)) : Act Nat := do
  match args with
  | [] => printing ("0\n".toList ++ signalNames.flatMap fun name => (name ++ "\n").toList)
  | arg :: _ =>
    match Numeral.value? arg with
    | some n =>
      let n := if 128 < n then n - 128 else n
      if 0 < n && n ≤ signalNames.length then printing ((signalName n).toList ++ ['\n'])
      else Act.refuse ("invalid signal number or exit status: " ++ String.ofList arg)
    | none => Act.refuse ("Illegal number: " ++ String.ofList arg)

/-- Sends a signal to each target. -/
def sendAll (signal : Nat) (targets : List (List Char)) : Act Nat := do
  if targets.isEmpty then killUsage
  else forEach targets (send signal)

/-- Sends signals. -/
def kill : Tool := fun _ args => do
  match args with
  | [] => killUsage
  | ['-', '-'] :: targets => sendAll 15 targets
  | ['-', 's'] :: name :: targets =>
    match signal? name with
    | some signal => sendAll signal targets
    | none => Act.refuse ("invalid signal number or name: " ++ String.ofList name)
  | ['-', 'l'] :: rest => listSignals rest
  | ('-' :: option) :: targets =>
    match signal? option with
    | some signal => sendAll signal targets
    | none =>
      match option with
      | 's' :: name =>
        if name.isEmpty then Act.refuse "No arg for -s option"
        else
          match signal? name with
          | some signal => sendAll signal targets
          | none => Act.refuse ("invalid signal number or name: " ++ String.ofList name)
      | letter :: _ => Act.refuse ("Illegal option -" ++ letter.toString)
      | [] => Act.refuse ("Illegal number: -")
  | targets => sendAll 15 targets

end EmbeddedPython.Shell.Tools
