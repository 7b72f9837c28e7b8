import EmbeddedPython.Executable
import EmbeddedPython.Wait
import EmbeddedPython.Work

/-!
# Bootstrapping the package installer

`Bootstrap.install` sees to it that the package installer can be imported.
Where it cannot, the executable of the installation runs the bootstrap
script once, and the import is tried once more, whatever became of the
script.

* `Bootstrap.runScriptWith` runs the script and says why it did not succeed.
* `Bootstrap.conclude` records the end of a child that was waited for.
-/

namespace EmbeddedPython.Bootstrap

/-- The module of the package installer. -/
def moduleName : String := "pip"

/-- The package installer can be imported. -/
def importable : Work Bool := do
  match ← Work.outcomeOf (Run.importModule moduleName) with
  | .ok _ => return true
  | .error _ => return false

/-- The bootstrap script of an installation. -/
def scriptPath (i : Installation) (config : Config) : Path :=
  i.root / config.bootstrapScript

/-- The command that runs the script. -/
def commandOf (i : Installation) (config : Config) (executable : Path) : Command :=
  ⟨executable, scriptPath i config, i.root⟩

/-- The name of the command in records. -/
def commandName (config : Config) (executable : Path) : String :=
  executable.display ++ " " ++ config.bootstrapScript

/-- Records the end of a child, and says why the script did not succeed. -/
def conclude (config : Config) (command : String) (child : Child) (decision : Decision) :
    Work (Except BootstrapFault Unit) := do
  let script := config.bootstrapScript
  let doings := child.doings decision.moment
  Work.changeMachine fun m => { m with files := doings.files }
  match decision with
  | .exited status _ =>
    Work.changeMachine (·.recordCommand command status.code? doings.output doings.errors)
    if status.isSuccess then
      Work.changeMachine (·.finishSpinner (script ++ " finished"))
      return .ok ()
    else
      Work.changeMachine (·.failSpinner (script ++ " failed"))
      return .error (.exited script status.text)
  | .killed _ =>
    Work.tell .warning
      ("Child process " ++ child.number ++ " exceeded " ++ config.timeoutText ++ "; killing it")
    Work.changeMachine (·.recordCommand command none doings.output doings.errors)
    Work.changeMachine (·.failSpinner (script ++ " timed out"))
    return .error (.timedOut script config.timeoutText)

/-- Waits for a child, for as long as the settings say. -/
def waitFor (config : Config) (command : String) (child : Child) :
    Work (Except BootstrapFault Unit) := do
  Work.changeMachine (·.startSpinner ("Running " ++ config.bootstrapScript))
  let seconds := config.bootstrapTimeout.toNat
  if !(← Work.machine).clock.reaches seconds then throw (.panic .deadline)
  conclude config command child (Wait.decide child (1000 * seconds))

/-! ## The course

What follows is written for any way to start a child that fits work with the
interpreter: `start` is the one place where a child comes from. -/

section Course

variable {M : Type → Type} [Monad M] [MonadLiftT Work M]
  (start : Command → M (Except FileFault Child)) (i : Installation) (config : Config)

/-- Runs the script, and says why it did not succeed. -/
def runScriptWith : M (Except BootstrapFault Unit) := do
  let m ← Work.machine
  match m.interpreter? i.root i.series with
  | none => return .error (.noExecutable i.series)
  | some executable =>
    let script := scriptPath i config
    if !m.files.isFile script then return .error (.noScript script)
    else
      let command := commandOf i config executable
      Work.tell .debug ("Running: " ++ command.quoted)
      match ← start command with
      | .error fault => return .error (.notStarted executable fault)
      | .ok child => waitFor config (commandName config executable) child

/-- Why a script did not succeed. -/
def reason? : Except BootstrapFault Unit → Option BootstrapFault
  | .ok () => none
  | .error fault => some fault

/-- Tries to get the package installer by the script, and says why the script did
not succeed if it did not. -/
def tryScriptWith : M (Option BootstrapFault) := do
  Work.tell .step ("Bootstrapping pip into " ++ i.root.display)
  let reason := reason? (← runScriptWith start i config)
  if let some fault := reason then
    Work.tell .warning ("Bootstrap script did not complete: " ++ fault.message)
  return reason

/-- The end of a bootstrap after the script was tried. -/
def finish (reason : Option BootstrapFault) : Work Bool := do
  if ← importable then
    Work.tell .success "pip installed"
    return true
  else
    Work.tell .error (HostError.bootstrapMessage reason)
    .fail (.bootstrap i.root reason)

/-- Sees to it that the package installer can be imported. -/
def installWith : M Bool := do
  if ← importable then
    Work.tell .debug "pip is already importable"
    return true
  else
    let reason ← tryScriptWith start i config
    finish i reason

end Course

/-- Starts a command on the machine as it is. -/
def start (launch : Launcher) (command : Command) : Work (Except FileFault Child) := do
  return launch (← Work.machine) command

/-- Sees to it that the package installer can be imported, with children that a
launcher starts. -/
def install (launch : Launcher) (i : Installation) (config : Config) : Work Bool :=
  installWith (start launch) i config

end EmbeddedPython.Bootstrap
