import EmbeddedPython.Proofs.Lifetime.Conduct
import EmbeddedPython.Proofs.Settings

/-!
# Attempts that succeed

`Host.Embeds` says that nothing on the way of an attempt stands against it: the
settings name an installation, its environment can be set, one of its libraries
loads, and the interpreter starts.  `Host.leads_embed` says that the attempt is a
success then.
-/

namespace EmbeddedPython

/-- A message does not change the environment of an installation. -/
theorem Machine.planFor_tell (m : Machine) (level : Log.Level) (message : String)
    (i : Installation) : (m.tell level message).planFor i = m.planFor i := by
  have same : (m.tell level message).environment = m.environment :=
    congrArg Settings.environment (m.settings_tell level message)
  unfold planFor environment?
  rw [same]

namespace Embedding

/-- A process whose machine is changed. -/
def mapMachine (p : Embedding) (f : Machine → Machine) : Embedding :=
  { p with session := { p.session with machine := f p.session.machine } }

@[simp]
theorem initialized_mapMachine (p : Embedding) (f : Machine → Machine) :
    (p.mapMachine f).initialized = p.initialized := rfl

@[simp]
theorem engine_mapMachine (p : Embedding) (f : Machine → Machine) :
    (p.mapMachine f).session.engine = p.session.engine := rfl

@[simp]
theorem machine_mapMachine (p : Embedding) (f : Machine → Machine) :
    (p.mapMachine f).session.machine = f p.session.machine := rfl

end Embedding

namespace Op

variable {α β : Type} {held : Bool} {p : Embedding}

/-- An operation comes to a result, and to a state. -/
def Leads (op : Op α) (held : Bool) (p : Embedding) (Q : α → Embedding → Prop) : Prop :=
  ∃ a q, op.run held p = (.ok a, q) ∧ Q a q

theorem Leads.bind {op : Op α} {k : α → Op β} {Q : α → Embedding → Prop}
    {R : β → Embedding → Prop} (first : op.Leads held p Q)
    (second : ∀ a q, Q a q → (k a).Leads held q R) : (op >>= k).Leads held p R := by
  obtain ⟨a, q, run, hq⟩ := first
  obtain ⟨b, q', run', hr⟩ := second a q hq
  refine ⟨b, q', ?_, hr⟩
  show (op.andThen (Activity.onResult k)).run held p = _
  rw [Activity.run_andThen, run]
  exact run'

theorem Leads.mono {op : Op α} {Q R : α → Embedding → Prop} (h : op.Leads held p Q)
    (imp : ∀ a q, Q a q → R a q) : op.Leads held p R := by
  obtain ⟨a, q, run, hq⟩ := h
  exact ⟨a, q, run, imp a q hq⟩

theorem leads_pure (a : α) : (pure a : Op α).Leads held p fun b q => b = a ∧ q = p :=
  ⟨a, p, rfl, rfl, rfl⟩

theorem leads_changeMachine (f : Machine → Machine) :
    (changeMachine f).Leads held p fun _ q => q = p.mapMachine f :=
  ⟨(), _, rfl, rfl⟩

theorem leads_tell (level : Log.Level) (message : String) :
    (tell level message).Leads held p fun _ q => q = p.mapMachine (·.tell level message) :=
  leads_changeMachine _

theorem leads_machine : machine.Leads held p fun m q => m = p.session.machine ∧ q = p :=
  ⟨_, _, rfl, rfl, rfl⟩

theorem leads_engine :
    (ofWork .engine).Leads held p fun e q => e = p.session.engine ∧ q = p :=
  ⟨_, _, rfl, rfl, rfl⟩

/-- Work that does not fail leads to a result, and what initialized the
interpreter stays the same. -/
theorem leads_ofWork {w : Work α} (never : w.Fails fun _ => False) :
    (ofWork w).Leads held p fun _ q => q.initialized = p.initialized := by
  have ends := never.run p.session
  cases run : (w.run.run p.session).1 with
  | ok a => exact ⟨a, { p with session := (w.run.run p.session).2 }, by rw [run_ofWork, run], rfl⟩
  | error f => exact (ends f run).elim

theorem leads_elapsed : (ofWork .elapsed).Leads held p fun _ q => q = p :=
  ⟨_, _, rfl, rfl⟩

theorem leads_ofExcept {r : Except HostError α} {a : α} (h : r = .ok a) :
    (ofExcept r).Leads held p fun b q => b = a ∧ q = p := by
  rw [h]
  exact leads_pure a

theorem leads_ofMachine {f : Machine → Except HostError α × Machine} {a : α}
    (h : (f p.session.machine).1 = .ok a) :
    (ofMachine f).Leads held p fun b q => b = a ∧ q = p.mapMachine fun m => (f m).2 := by
  refine ⟨a, _, ?_, rfl, rfl⟩
  have answered (s : Session) : (Work.ofMachine f).run.run s =
      (Work.ofExcept (f s.machine).1).run.run { s with machine := (f s.machine).2 } := rfl
  rw [ofMachine, run_ofWork, answered, h]
  rfl

/-- A library that is found is opened. -/
theorem leads_openLibrary {i : Installation} {path : Path}
    (found : (p.session.machine.locateLibrary i).1 = .ok path) :
    (Op.openLibrary i).Leads held p fun library q => library = ⟨path, p.libraries.opened⟩ ∧
      q.initialized = p.initialized ∧ q.session.engine = p.session.engine := by
  have located : (Op.ofMachine (·.locateLibrary i)).Leads held p fun a q =>
      a = path ∧ q = p.mapMachine fun m => (m.locateLibrary i).2 :=
    leads_ofMachine found
  refine located.bind ?_
  rintro _ _ ⟨rfl, rfl⟩
  exact ⟨_, _, rfl, rfl, rfl, rfl⟩

end Op

namespace Host

open Op

variable {held : Bool} {p : Embedding}

/-- Nothing stands against an attempt. -/
def Embeds (config : Config) (p : Embedding) : Prop :=
  ∃ target plan path, targetOf config = .ok target ∧
    p.session.machine.planFor target = .ok plan ∧
    (((p.session.machine.tell .info (announcement target)).install plan).locateLibrary target).1 =
      .ok path ∧
    p.session.engine.starts

/-- The interpreter is initialized if it starts. -/
theorem leads_start (already : Failure) (i : Installation) (library : Library)
    (unset : p.initialized = none) (starts : p.session.engine.starts) :
    (start already i library).Leads held p fun _ q =>
      q.initialized = some ⟨i.version, library.path⟩ := by
  have recorded {q : Embedding} (unset : q.initialized = none) (i : Initialization) :
      (record already i).Leads held q fun _ q => q.initialized = some i := by
    obtain ⟨session, initialized, libraries⟩ := q
    obtain rfl : initialized = none := unset
    exact ⟨(), _, rfl, rfl⟩
  refine leads_elapsed.bind fun elapsed q same => ?_
  rw [same]
  refine (leads_tell _ _).bind ?_
  rintro _ _ rfl
  refine leads_engine.bind ?_
  rintro _ q ⟨rfl, same⟩
  rw [same]
  simp only [Embedding.engine_mapMachine, starts, Bool.not_true, Bool.false_eq_true, if_false]
  split
  · refine (leads_tell _ _).bind ?_
    rintro _ _ rfl
    refine recorded ?_ _
    exact unset
  · refine recorded ?_ _
    exact unset

/-- The library is kept when the interpreter starts. -/
theorem leads_started (already : Failure) (i : Installation) (library : Library)
    (unset : p.initialized = none) (starts : p.session.engine.starts) :
    Leads ((start already i library).orClear (·.releaseLibrary library)) held p
      fun _ q => q.initialized = some ⟨i.version, library.path⟩ := by
  have leads : (start already i library).Leads held p fun _ q =>
    q.initialized = some ⟨i.version, library.path⟩ := leads_start already i library unset starts
  obtain ⟨_, q, run, set⟩ := leads
  refine ⟨(), q, ?_, set⟩
  rw [Activity.orClear, Activity.run_andThen, run]
  rfl

/-- What an attempt does after the interpreter is initialized does not fail. -/
theorem leads_told (h : Host) (forwards : Bool) :
    Leads (do
      let engine ← .ofWork .engine
      .tell .debug ("Interpreter ready: " ++ engine.banner)
      if forwards || (← Op.machine).log.forwards then .ofWork forwardLogging
      let elapsed ← .ofWork .elapsed
      .tell .debug ("Total host initialization took: " ++ elapsed)
      return h) held p fun h' q => h' = h ∧ q.initialized = p.initialized := by
  have told {q : Embedding} (same : q.initialized = p.initialized) : Leads (do
      let elapsed ← .ofWork .elapsed
      .tell .debug ("Total host initialization took: " ++ elapsed)
      return h) held q fun h' q => h' = h ∧ q.initialized = p.initialized := by
    refine (leads_ofWork Work.fails_elapsed).bind fun elapsed q kept => ?_
    rw [← kept] at same
    refine (leads_ofWork (Work.fails_tell _ _)).bind fun _ q kept => ?_
    rw [← kept] at same
    exact ⟨_, _, rfl, rfl, same⟩
  refine (leads_ofWork Work.fails_engine).bind fun engine q kept => ?_
  refine (leads_ofWork (Work.fails_tell _ _)).bind fun _ q' kept' => ?_
  refine leads_machine.bind fun m q h => ?_
  rw [h.2]
  have same := kept'.trans kept
  dsimp only
  split
  · exact (leads_ofWork fails_forwardLogging).bind fun _ q kept => told (kept.trans same)
  · exact told same

theorem leads_installEnvironment {i : Installation} {plan : Plan}
    (planned : p.session.machine.planFor i = .ok plan) :
    (installEnvironment i).Leads held p fun _ q => q = p.mapMachine (·.install plan) := by
  refine leads_machine.bind fun m q h => ?_
  obtain ⟨rfl, same⟩ := h
  rw [same]
  have found : (p.session.machine.planFor i).mapError HostError.configuration = .ok plan := by
    rw [planned]
    rfl
  refine (leads_ofExcept found).bind fun plan' q h => ?_
  obtain ⟨same, same'⟩ := h
  rw [same, same']
  exact leads_changeMachine _

/-- An attempt that found no interpreter is a success when nothing stands
against it. -/
theorem leads_embed (already : Failure) {config : Config} {target : Installation} {plan : Plan}
    {path : Path} (unset : p.initialized = none) (named : targetOf config = .ok target)
    (planned : p.session.machine.planFor target = .ok plan)
    (found : (((p.session.machine.tell .info (announcement target)).install
      plan).locateLibrary target).1 = .ok path)
    (starts : p.session.engine.starts) :
    (embed already config).Leads held p fun h q =>
      h = ⟨target, config, some ⟨path, p.libraries.opened⟩⟩ ∧
        q.initialized = some ⟨target.version, path⟩ := by
  refine (leads_ofExcept named).bind fun i q h => ?_
  obtain ⟨rfl, same⟩ := h
  rw [same]
  refine (leads_tell _ _).bind fun _ q same => ?_
  rw [same]
  have told : (p.mapMachine (·.tell .info (announcement i))).session.machine.planFor i =
      .ok plan := by
    rw [Embedding.machine_mapMachine, Machine.planFor_tell, planned]
  refine (leads_installEnvironment told).bind fun _ q same => ?_
  rw [same]
  have located : (((p.mapMachine (·.tell .info (announcement i))).mapMachine
      (·.install plan)).session.machine.locateLibrary i).1 = .ok path := by
    rw [Embedding.machine_mapMachine, Embedding.machine_mapMachine]
    exact found
  refine (leads_openLibrary located).bind fun library q kept => ?_
  simp only [Embedding.initialized_mapMachine, Embedding.engine_mapMachine] at kept
  obtain ⟨rfl, kept, engine⟩ := kept
  have ready : q.session.engine.starts := by
    rw [engine]
    exact starts
  refine (leads_started already i _ (kept.trans unset) ready).bind fun _ q set => ?_
  refine (leads_told ⟨i, config, some _⟩ config.forwardsLogging).mono fun h q told => ?_
  exact ⟨told.1, told.2.trans set⟩

theorem leads_attempt (already : Failure) {config : Config} (embeds : Embeds config p)
    (unset : p.initialized = none) :
    (attempt already config).Leads held p fun _ q => q.initialized.isSome := by
  have looks : (attempt already config).run held p = (embed already config).run held p := by
    obtain ⟨session, initialized, libraries⟩ := p
    obtain rfl : initialized = none := unset
    rfl
  obtain ⟨target, plan, path, named, planned, found, starts⟩ := embeds
  obtain ⟨h, q, run, -, set⟩ := leads_embed already unset named planned found starts
  exact ⟨h, q, looks.trans run, Option.isSome_iff_exists.2 ⟨_, set⟩⟩

end Host

end EmbeddedPython
