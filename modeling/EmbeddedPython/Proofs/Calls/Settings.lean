import EmbeddedPython.Proofs.Calls.SearchPath

/-!
# The settings of a machine under calls

What is set up of a machine before an interpreter works on it, its environment
variables among that, is the same after every call, whatever becomes of the call
(`Call.keepsSettings`), and so after any calls (`SearchPath.settings_afterAll`).
-/

namespace EmbeddedPython

namespace Op

variable {α β : Type}

/-- However the operation ends, the machine is set up as it was. -/
def KeepsSettings (op : Op α) : Prop :=
  ∀ held p, (op.run held p).2.session.machine.settings = p.session.machine.settings

theorem keepsSettings_ends (r : Except Failure α) : KeepsSettings (.ends r) := fun _ _ => rfl

/-- A step that leaves the machine alone. -/
theorem keepsSettings_step {change : Embedding → Embedding} {next : Embedding → Op α}
    (same : ∀ p, (change p).session = p.session) (rest : ∀ p, (next p).KeepsSettings) :
    KeepsSettings (.step change next) := by
  intro held p
  show ((next p).run held (change p)).2.session.machine.settings = _
  rw [rest p, same]

theorem KeepsSettings.bind {op : Op α} {k : α → Op β} (first : op.KeepsSettings)
    (second : ∀ a, (k a).KeepsSettings) : (op >>= k).KeepsSettings := by
  intro held p
  rw [Activity.run_bind]
  cases (op.run held p).1 with
  | ok a => exact (second a held _).trans (first held p)
  | error f => exact first held p

theorem KeepsSettings.map {op : Op α} (h : op.KeepsSettings) (f : α → β) :
    (f <$> op).KeepsSettings :=
  h.bind fun _ => keepsSettings_ends _

theorem keepsSettings_ofExcept (r : Except HostError α) : (ofExcept r).KeepsSettings := by
  cases r <;> exact keepsSettings_ends _

theorem keepsSettings_machine : machine.KeepsSettings :=
  keepsSettings_step (fun _ => rfl) fun _ => keepsSettings_ends _

theorem keepsSettings_ofWork {w : Work α} (h : w.Keeps) : (ofWork w).KeepsSettings := by
  intro held p
  rw [run_ofWork]
  exact h.run_snd p.session

theorem KeepsSettings.exclusive {op : Op α} (h : op.KeepsSettings) (purpose : Purpose) :
    (exclusive purpose op).KeepsSettings := by
  intro held p
  cases held with
  | true => rfl
  | false => exact h true p

theorem keepsSettings_locked {w : Work α} (h : w.Keeps) : (locked (ofWork w)).KeepsSettings := by
  intro held p
  cases ready : p.initialized with
  | none => rw [run_locked_of_none _ held p ready]
  | some i =>
    rw [run_locked_of_some _ held p ready]
    exact (keepsSettings_ofWork h).exclusive .use held p

end Op

namespace Host

open Op

theorem keepsSettings_scriptAt (path : String) : (scriptAt path).KeepsSettings :=
  keepsSettings_machine.bind fun _ => keepsSettings_ofExcept _

theorem keepsSettings_checkParams (params : Option Table) : (checkParams params).KeepsSettings := by
  cases params with
  | none => exact keepsSettings_ends _
  | some t =>
    have noted : (changeMachine (·.noteUnusedRows t)).KeepsSettings :=
      keepsSettings_ofWork (Work.isClosed_keeps.changes (Machine.settings_noteUnusedRows · t))
    exact noted.bind fun _ => (keepsSettings_ofExcept _).bind fun _ => keepsSettings_ends _

end Host

open Op in
/-- Whatever becomes of a call, the machine is set up as it was. -/
theorem Call.keepsSettings (h : Host) (call : Call) : (call.op h).KeepsSettings := by
  have keeps := Work.isClosed_keeps
  cases call with
  | importModule name =>
    exact (keepsSettings_locked <| keeps.bind (keeps.importModule name) fun _ =>
      keeps.bind keeps.elapsed fun _ => keeps.tell _ _).map _
  | setPath entry => exact (keepsSettings_locked (Work.keeps_extendPath entry)).map _
  | searchPath =>
    exact (keepsSettings_locked <| keeps.bind keeps.engine fun _ => keeps.value _).map _
  | refreshImports => exact (keepsSettings_locked (keeps.tell _ _)).map _
  | execute source scope => exact (keepsSettings_locked (keeps.execute source scope)).map _
  | runFile path =>
    refine KeepsSettings.map ?_ _
    exact (Host.keepsSettings_scriptAt path).bind fun _ => keepsSettings_machine.bind fun _ =>
      (keepsSettings_ofExcept _).bind fun _ =>
        (keepsSettings_ofWork (keeps.tell _ _)).bind fun _ => keepsSettings_locked <|
          (Work.keeps_extendPath _).bind fun _ => keeps.execute _ _
  | callScript source function params type =>
    refine KeepsSettings.map ?_ _
    exact (keepsSettings_ofExcept _).bind fun _ => (keepsSettings_ofExcept _).bind fun _ =>
      (Host.keepsSettings_checkParams params).bind fun _ => keepsSettings_locked <|
        keeps.bind (keeps.callNamed source function params) fun _ =>
          keeps.bind keeps.elapsed fun _ => keeps.bind (keeps.tell _ _) fun _ => keeps.ofExcept _
  | callFile path function params type =>
    refine KeepsSettings.map ?_ _
    exact (Host.keepsSettings_scriptAt path).bind fun _ =>
      (keepsSettings_ofExcept _).bind fun _ =>
        (Host.keepsSettings_checkParams params).bind fun _ => keepsSettings_locked <|
          (Work.keeps_extendPath _).bind fun _ =>
            keeps.bind (keeps.callModule _ function params) fun _ => keeps.ofExcept _
  | initPip launch => exact (keepsSettings_locked (keeps.install launch h.target h.config)).map _

/-- The machine is set up after calls as it was before them. -/
theorem SearchPath.settings_afterAll (ms : List Made) (p : Embedding) :
    (afterAll ms p).session.machine.settings = p.session.machine.settings := by
  induction ms generalizing p with
  | nil => rfl
  | cons m ms ih => exact (ih (m.after p)).trans (m.call.keepsSettings m.host m.held p)

end EmbeddedPython
