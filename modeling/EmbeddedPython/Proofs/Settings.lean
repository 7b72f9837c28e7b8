import EmbeddedPython.Call
import EmbeddedPython.Proofs.Engine.Closure

/-!
# What work leaves as it is

The environment variables of a machine and where its log goes are set up before
an interpreter works on it, and no work of an operation changes them.  This is
more than that they are the same at the end: they are the same between any two
steps of the work, so another thread finds them as they were whenever it looks.

* `Steps.Keeps` says this of one way to look at a state: no step changes what is
  seen.
* `Machine.settings` is what operations look at before they ask for the lock.
* `Work.IsClosed` says that a property holds of single steps of work and of every
  way to put them together, and there is one lemma for each operation that is put
  together from them.
* `Work.Keeps` says that work keeps the settings, which is such a property.
-/

namespace EmbeddedPython

/-! ## Steps that keep what is seen -/

/-- No step of the work changes what `seen` shows of the state. -/
inductive Steps.Keeps {σ ρ α : Type} (seen : σ → ρ) : Steps σ α → Prop
  | done (a : α) : Keeps seen (.done a)
  | step {change : σ → σ} {next : σ → Steps σ α}
      (kept : ∀ s, seen (change s) = seen s) (rest : ∀ s, (next s).Keeps seen) :
      Keeps seen (.step change next)

namespace Steps

variable {σ τ ρ α β : Type} {seen : σ → ρ}

theorem Keeps.bind {w : Steps σ α} {k : α → Steps σ β} (first : w.Keeps seen)
    (second : ∀ a, (k a).Keeps seen) : (w >>= k).Keeps seen := by
  show (w.bind k).Keeps seen
  induction first with
  | done a => exact second a
  | step kept _ ih => exact .step kept ih

/-- Work on a part keeps whatever is seen of the rest. -/
theorem keeps_on {part : Part σ τ} (outside : ∀ t s, seen (part.put t s) = seen s)
    (w : Steps τ α) : (w.on part).Keeps seen := by
  induction w with
  | done a => exact .done a
  | step change next ih => exact .step (fun s => outside _ s) fun s => ih _

/-- Work on a part keeps what it keeps of the part. -/
theorem Keeps.on {part : Part σ τ} {inner : τ → ρ} {w : Steps τ α}
    (h : w.Keeps inner) : (w.on part).Keeps fun s => inner (part.get s) := by
  induction h with
  | done a => exact .done a
  | step kept _ ih =>
    refine .step (fun s => ?_) fun s => ih _
    rw [part.get_put]
    exact kept _

theorem Keeps.pair {ρ' : Type} {other : σ → ρ'} {w : Steps σ α} (first : w.Keeps seen)
    (second : w.Keeps other) : w.Keeps fun s => (seen s, other s) := by
  induction first with
  | done a => exact .done a
  | step kept _ ih =>
    cases second with
    | step kept' rest' => exact .step (fun s => Prod.ext (kept s) (kept' s)) fun s => ih s (rest' s)

/-- What is seen is the same at the end. -/
theorem Keeps.run_snd {w : Steps σ α} (h : w.Keeps seen) (s : σ) :
    seen (w.run s).2 = seen s := by
  induction h generalizing s with
  | done a => rfl
  | step kept _ ih => exact (ih s _).trans (kept s)

end Steps

/-! ## Settings of a machine -/

/-- What is set up of a machine: its environment variables, and where its log
goes. -/
structure Settings where
  environment : List (String × Octets)
  logFile : Option Path
  verbosity : Nat
  quiet : Bool
deriving DecidableEq

namespace Settings

/-- The home directory. -/
def home? (t : Settings) : Option Path :=
  match t.environment.lookup "HOME" with
  | some value => if value.isEmpty then none else some ⟨value⟩
  | none => none

/-- Nothing is written to a log file, and notes on the way are not echoed. -/
def IsSilent (t : Settings) : Prop :=
  t.logFile = none ∧ (t.quiet = true ∨ t.verbosity = 0)

end Settings

namespace Machine

/-- What is set up. -/
def settings (m : Machine) : Settings :=
  ⟨m.environment, m.log.path, m.log.verbosity, m.log.quiet⟩

theorem home?_eq (m : Machine) : m.home? = m.settings.home? := rfl

@[simp]
theorem settings_record (m : Machine) (r : Log.Record) :
    (m.record r).settings = m.settings := by
  unfold record
  split <;> rfl

@[simp]
theorem settings_tell (m : Machine) (level : Log.Level) (message : String) :
    (m.tell level message).settings = m.settings := by
  have recorded := settings_record m (level.record message)
  unfold tell
  dsimp only
  split
  · exact recorded
  · exact recorded

@[simp]
theorem settings_recordCommand (m : Machine) (command : String) (code : Option Int)
    (output errors : Octets) :
    (m.recordCommand command code output errors).settings = m.settings := by
  unfold recordCommand
  generalize Log.commandRecords command code output errors = records
  induction records generalizing m with
  | nil => rfl
  | cons r rest ih => exact (ih (m.record r)).trans (settings_record m r)

@[simp]
theorem settings_startSpinner (m : Machine) (message : String) :
    (m.startSpinner message).settings = m.settings := by
  unfold startSpinner
  split <;> rfl

@[simp]
theorem settings_finishSpinner (m : Machine) (message : String) :
    (m.finishSpinner message).settings = m.settings :=
  settings_tell m.stopSpinner .success message

@[simp]
theorem settings_failSpinner (m : Machine) (message : String) :
    (m.failSpinner message).settings = m.settings :=
  settings_tell m.stopSpinner .failure message

@[simp]
theorem settings_noteUnusedRows (m : Machine) (t : Table) :
    (m.noteUnusedRows t).settings = m.settings := by
  unfold noteUnusedRows
  split
  · exact settings_tell ..
  · rfl

/-- A note on the way is lost on a silent machine. -/
theorem tell_debug_of_silent {m : Machine} (h : m.settings.IsSilent) (message : String) :
    m.tell .debug message = m := by
  obtain ⟨noFile, noEcho⟩ := h
  have noRecord : m.record (Log.Level.debug.record message) = m := by
    unfold record
    rw [show m.log.path = none from noFile]
  have noLine : m.log.echo? .debug message = none := by
    unfold Log.echo?
    rw [if_pos]
    rcases noEcho with quiet | terse
    · rw [show m.log.quiet = true from quiet]
      rfl
    · rw [show m.log.verbosity = 0 from terse]
      simp [Log.Level.threshold]
  simp only [tell, noRecord, noLine]

theorem noteUnusedRows_of_silent {m : Machine} (h : m.settings.IsSilent) (t : Table) :
    m.noteUnusedRows t = m := by
  unfold noteUnusedRows
  split
  · exact tell_debug_of_silent h _
  · rfl

end Machine

/-! ## Work -/

/-- A property of work that has single steps and every way to put work together,
next to one of programs. -/
structure Work.IsClosed (Q : ∀ {α : Type}, Run α → Prop) (P : ∀ {α : Type}, Work α → Prop) :
    Prop where
  programs : Run.IsClosed Q
  allocates (ns : Namespace) : Q (Run.allocate ns)
  value {α : Type} (a : α) : P (pure a : Work α)
  throws {α : Type} (f : Failure) : P (throw f : Work α)
  bind {α β : Type} {w : Work α} {k : α → Work β} (first : P w) (second : ∀ a, P (k a)) :
    P (w >>= k)
  looks : P (get : Work Session)
  changes {f : Machine → Machine} (h : ∀ m, (f m).settings = m.settings) :
    P (Work.changeMachine f)
  outcomes {α : Type} {r : Run α} (h : Q r) : P (Work.outcomeOf r)
  releases {α : Type} {w : Work α} (home : Home) (h : P w) : P (Work.releasing home w)

namespace Work.IsClosed

variable {α : Type} {Q : ∀ {α : Type}, Run α → Prop} {P : ∀ {α : Type}, Work α → Prop}
  (hP : IsClosed Q P)

include hP

theorem ofExcept (r : Except HostError α) : P (ofExcept r) := by
  cases r with
  | ok a => exact hP.value a
  | error e => exact hP.throws _

theorem machine : P machine := hP.bind hP.looks fun _ => hP.value _

theorem engine : P engine := hP.bind hP.looks fun _ => hP.value _

theorem elapsed : P elapsed := hP.bind hP.machine fun _ => hP.value _

theorem tell (level : Log.Level) (message : String) : P (tell level message) :=
  hP.changes (Machine.settings_tell · level message)

theorem ofRun (toError : Raised → HostError) {r : Run α} (h : Q r) : P (ofRun toError r) :=
  hP.bind (hP.outcomes h) fun _ => hP.ofExcept _

theorem argumentsOf (params : Option Table) : P (argumentsOf params) := by
  cases params with
  | none => exact hP.value _
  | some t =>
    exact hP.bind (hP.changes (Machine.settings_noteUnusedRows · t)) fun _ => hP.ofExcept _

/-! ## Scopes -/

theorem create (name : String) : P (Scope.create name) :=
  hP.ofRun _ (hP.programs.bind (hP.allocates _) fun _ => hP.programs.value _)

theorem within (name : String) {w : Scope → Work α} (h : ∀ scope, P (w scope)) :
    P (Scope.within name w) :=
  hP.bind (hP.create name) fun scope => hP.releases scope.home (h scope)

theorem bindName (home : Home) (name : String) (v : Value) :
    Q (Run.change (·.bindName home name v)) :=
  hP.programs.updates home (·.set (.name name) v)

theorem run (scope : Scope) (source : Source) : P (scope.run source) := by
  have everywhere : Q scope.bindEverywhere := by
    refine hP.programs.bind hP.programs.looks fun e => ?_
    split
    · exact hP.bindName _ _ _
    · exact hP.programs.value _
  exact hP.bind (hP.ofExcept _) fun program => hP.ofRun _ <|
    hP.programs.bind everywhere fun _ => hP.programs.runProgram _ program

theorem importScope (scope other : Scope) (localName : String) :
    P (scope.importScope other localName) :=
  hP.bind hP.engine fun _ => hP.ofRun _ <| hP.programs.bind (hP.programs.ofExcept _) fun _ =>
    hP.programs.bind (hP.allocates _) fun _ => hP.programs.bind (hP.bindName _ _ _)
      fun _ => hP.programs.value _

theorem call (scope : Scope) (localName function : String) (args : List Value) :
    P (scope.call localName function args) := by
  refine hP.bind (hP.bind hP.engine fun _ => hP.value _) fun found => ?_
  cases found with
  | none => exact hP.throws _
  | some module =>
    exact hP.ofRun _ <| hP.programs.bind (hP.programs.attributeOf module function) fun f =>
      hP.programs.call f args

theorem execute (source : Source) (name : Option String) : P (Scope.execute source name) :=
  hP.within _ fun scope => hP.bind (hP.tell _ _) fun _ => hP.run scope source

theorem callNamed (definition : Source) (function : String) (params : Option Table) :
    P (Scope.callNamed definition function params) :=
  hP.within _ fun definitions => hP.bind (hP.run definitions definition) fun _ =>
    hP.within _ fun caller => hP.bind (hP.importScope caller definitions _) fun copy =>
      hP.releases copy <| hP.bind (hP.argumentsOf params) fun args =>
        hP.bind (hP.tell _ _) fun _ => hP.call caller _ function args

/-! ## Modules -/

theorem importModule (name : String) : P (Work.importModule name) :=
  hP.ofRun _ (hP.programs.importModule name)

theorem callModule (name function : String) (params : Option Table) :
    P (Host.callModule name function params) :=
  hP.bind (hP.tell _ _) fun _ => hP.bind (hP.importModule name) fun _ =>
    hP.bind (hP.ofRun _ (hP.programs.attributeOf _ function)) fun f =>
      hP.bind (hP.argumentsOf params) fun args => hP.bind (hP.ofRun _ (hP.programs.call f args))
        fun v => hP.bind hP.elapsed fun _ => hP.bind (hP.tell _ _) fun _ => hP.value v

/-! ## The package installer -/

theorem importable : P Bootstrap.importable := by
  refine hP.bind (hP.outcomes (hP.programs.importModule _)) fun r => ?_
  cases r <;> exact hP.value _

theorem conclude (config : Config) (command : String) (child : Child) (decision : Decision) :
    P (Bootstrap.conclude config command child decision) := by
  refine hP.bind (hP.changes (f := fun m =>
    { m with files := (child.doings decision.moment).files }) fun _ => rfl) fun _ => ?_
  cases decision with
  | exited status moment =>
    refine hP.bind (hP.changes fun _ => by simp) fun _ => ?_
    split
    · exact hP.bind (hP.changes fun _ => by simp) fun _ => hP.value _
    · exact hP.bind (hP.changes fun _ => by simp) fun _ => hP.value _
  | killed moment =>
    exact hP.bind (hP.tell _ _) fun _ => hP.bind (hP.changes fun _ => by simp) fun _ =>
      hP.bind (hP.changes fun _ => by simp) fun _ => hP.value _

theorem waitFor (config : Config) (command : String) (child : Child) :
    P (Bootstrap.waitFor config command child) := by
  refine hP.bind (hP.changes fun _ => by simp) fun _ => hP.bind hP.machine fun m => ?_
  dsimp only
  split
  · exact hP.bind (hP.throws _) fun _ => hP.conclude config command child _
  · exact hP.conclude config command child _

theorem start (launch : Launcher) (command : Command) : P (Bootstrap.start launch command) :=
  hP.bind hP.machine fun _ => hP.value _

theorem runScript (launch : Launcher) (i : Installation) (config : Config) :
    P (Bootstrap.runScriptWith (Bootstrap.start launch) i config : Work _) := by
  refine hP.bind hP.machine fun m => ?_
  split
  · exact hP.value _
  · dsimp only
    split
    · exact hP.value _
    · refine hP.bind (hP.tell _ _) fun _ => hP.bind (hP.start launch _) fun r => ?_
      split
      · exact hP.value _
      · exact hP.waitFor config _ _

theorem tryScript (launch : Launcher) (i : Installation) (config : Config) :
    P (Bootstrap.tryScriptWith (Bootstrap.start launch) i config : Work _) := by
  refine hP.bind (hP.tell _ _) fun _ => hP.bind (hP.runScript launch i config) fun r => ?_
  dsimp only
  split
  · exact hP.bind (hP.tell _ _) fun _ => hP.value _
  · exact hP.value _

theorem finish (i : Installation) (reason : Option BootstrapFault) :
    P (Bootstrap.finish i reason) := by
  refine hP.bind hP.importable fun found => ?_
  split
  · exact hP.bind (hP.tell _ _) fun _ => hP.value _
  · exact hP.bind (hP.tell _ _) fun _ => hP.throws _

theorem install (launch : Launcher) (i : Installation) (config : Config) :
    P (Bootstrap.install launch i config) := by
  refine hP.bind hP.importable fun found => ?_
  split
  · exact hP.bind (hP.tell _ _) fun _ => hP.value _
  · exact hP.bind (hP.tryScript launch i config) fun reason => hP.finish i reason

end Work.IsClosed

/-! ## Work and the settings -/

namespace Work

/-- No step of the work changes the settings. -/
def Keeps {α : Type} (w : Work α) : Prop :=
  Steps.Keeps (fun s : Session => s.machine.settings) w.run

variable {α β : Type} {ρ : Type} {seen : Session → ρ}

/-- Work after work that came to a result keeps what both keep. -/
theorem keeps_bind {w : Work α} {k : α → Work β} (first : Steps.Keeps seen w.run)
    (second : ∀ a, Steps.Keeps seen (k a).run) : Steps.Keeps seen (w >>= k).run := by
  refine Steps.Keeps.bind first fun r => ?_
  cases r with
  | ok a => exact second a
  | error f => exact .done _

theorem Keeps.bind {w : Work α} {k : α → Work β} (first : w.Keeps)
    (second : ∀ a, (k a).Keeps) : (w >>= k).Keeps := keeps_bind first second

theorem keeps_modify {f : Session → Session} (h : ∀ s, seen (f s) = seen s) :
    Steps.Keeps seen (modify f : Work Unit).run :=
  .step h fun _ => .done _

/-- Any work of the interpreter has the property that says nothing. -/
theorem isClosed_true : Run.IsClosed fun _ => True where
  value _ := trivial
  raised _ := trivial
  bind _ _ := trivial
  caught _ := trivial
  looks := trivial
  updates _ _ := trivial
  emits _ := trivial
  logs _ _ := trivial
  writes _ _ := trivial
  calling _ _ _ _ _ := trivial
  adds _ _ := trivial
  loading _ := trivial

/-- A program sees neither the environment nor the settings of the log. -/
theorem isClosed_keeps : IsClosed (fun _ => True) Keeps where
  programs := isClosed_true
  allocates _ := trivial
  value _ := .done _
  throws _ := .done _
  bind := Keeps.bind
  looks := .step (fun _ => rfl) fun _ => .done _
  changes h := keeps_modify fun s => h s.machine
  outcomes {_ r} _ := (Steps.keeps_on (fun _ _ => rfl) r.run).bind fun _ => .done _
  releases _ h := Steps.Keeps.bind h fun _ => .step (fun _ => rfl) fun _ => .done _

theorem keeps_extendPath (entry : String) : (extendPath entry).Keeps :=
  Keeps.bind (keeps_modify fun _ => rfl) fun _ => isClosed_keeps.tell _ _

end Work

end EmbeddedPython
