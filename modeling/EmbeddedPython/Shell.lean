import EmbeddedPython.Shell.Evaluate

/-!
# Starting commands

`Shell.launch` starts a command the way the system does.  The child changes
into its directory first, so a relative path of the program is taken from
there.  A program is one of the system or a file that may be executed; such a
file names in its first line what runs it.
-/

namespace EmbeddedPython.Shell

/-- The files as a child in a directory sees them. -/
def enter (files : FileSystem) (directory : Path) : Except FileFault FileSystem := do
  let place ← files.locate directory
  match files.node? place with
  | some .directory => return { files with current := place }
  | some (.file _) => .error .notDirectory
  | none => .error .notFound

/-- The depth that commands may have inside commands. -/
def deepest : Nat := 3000

/-- The state of a process at the start.  Its input holds nothing, and its
parent reads what it writes. -/
def initial (files : FileSystem) (environment : List (String × Octets)) (number : String) :
    State where
  world := {
    files, output := [], errors := []
    channels := [(0, .nowhere), (1, .own .output), (2, .own .errors)], fresh := 3
    documents := [], freshDocument := 0, time := State.startup, trail := [], jobs := []
    isLater := false, finished := [], processes := 0, sent := [], patience := State.patience }
  process := {
    name := [], command := [], number := number.toList, parents := [], arguments := []
    bindings := environment.map fun (name, value) => (name, ⟨some (charsOf value), true, false⟩)
    functions := [], abbreviations := [], mask := 18, options := [], traps := [], signals := [], streams := [(0, 0), (1, 1), (2, 2)]
    directory := files.current, status := 0, statusBefore := none, substituted := 0, line := 0, lineRead := 0
    loops := 0, calls := 0, hidden := [], lastJob := [], jobNumbers := [], optionsSeen := 0 }

/-- How a process ended, if it did. -/
def endingOf : Except Stop Nat → Option ExitStatus
  | .ok status => some (.exited (status % 256))
  | .error (.killed _ signal) => some (.signalled signal false)
  | .error .stuck => none
  | .error (.leave status) | .error (.fault status) | .error (.goBack status) =>
    some (.exited (status % 256))
  | .error (.breakLoops _) | .error (.nextRound _) => some (.exited 0)

/-- The life of a child that runs a program.  What it left behind goes on
writing after its end, and is waited for as well. -/
def life (start : State) (i : Image) (files : FileSystem) : Child :=
  let run := runner deepest
  let (result, ended) := (Run.image run start.process.number i).run.run start
  let others : Act Unit := do
    Act.changeWorld fun w => { w with patience := State.patience }
    Run.awaitAll run Run.mostJobs
  let (rest, all) := others.run.run ended
  let (result, ended) : Except Stop Nat × State := match result, rest with
    | .error .stuck, .error (.killed number signal) => (.error (.killed number signal), all)
    | result, _ => (result, ended)
  let moment := ended.world.time
  let trail := (moment, Act.doings ended.world) :: ended.world.trail
  let seen (d : Doings) : Doings := { d with files := { d.files with current := files.current } }
  { number := String.ofList start.process.number
    doings := fun now =>
      if (endingOf result).isSome && moment ≤ now then seen (Act.doings all.world)
      else seen (State.doneBy ⟨files, [], []⟩ now trail)
    ending := (endingOf result).map fun status => (moment, status) }

/-- Starts a command in a process of some number. -/
def launch (number : String) : Launcher := fun m command => do
  let files ← enter m.files command.directory
  let name := charsOf command.program.octets
  let image ← Image.ofPath files name name [charsOf command.argument.octets]
  return life (initial files m.environment number) image m.files

end EmbeddedPython.Shell
