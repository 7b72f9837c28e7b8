import EmbeddedPython.Proofs.Settings

/-!
# What a call does before it has the lock

A call looks at its arguments, and some calls look at the machine, before they
ask for the lock.  `Activity.Prepares` says that all of this changes nothing and
sees nothing that could change, with one exception: once on the way, the state
may be looked at as it happens to be.  What the call amounts to then is its
`turn`, a function of the state it saw.

* `Activity.Checks` is a look at arguments and settings that comes to a known
  result.
* `Call.prepares` says what each call is: it amounts to itself, but to run a
  script is to run what was read of it earlier, `Call.opSeeing`.
-/

namespace EmbeddedPython

namespace Activity

variable {σ ρ α β : Type}

/-- Outside of the lock, an activity changes nothing and sees no more than that
`seen` shows `v`, except that it looks at the state once.  `turn` is what it
amounts to when the look falls on a state. -/
inductive Prepares (seen : σ → ρ) (v : ρ) :
    {α : Type} → Activity σ α → (σ → Activity σ α) → Prop
  | ends {α : Type} {r : Except Failure α} {turn : σ → Activity σ α}
      (same : ∀ s' s, seen s' = v → seen s = v → (turn s').run false s = (r, s)) :
      Prepares seen v (.ends r) turn
  | locks {α β : Type} {purpose : Purpose} {w : Steps σ (Except Failure β)}
      {result : Except Failure β → Except Failure α} {next : Except Failure β → Activity σ α}
      {turn : σ → Activity σ α} (keeps : w.Keeps seen) (after : ∀ r, next r = .ends (result r))
      (same : ∀ s' s, seen s' = v → seen s = v →
        (turn s').run false s = (result (w.run s).1, (w.run s).2)) :
      Prepares seen v (.guarded purpose (.ofSteps w) next) turn
  | step {α : Type} {change : σ → σ} {next : σ → Activity σ α} {turn : σ → Activity σ α}
      (still : ∀ s, seen s = v → change s = s)
      (rest : ∀ s, seen s = v → Prepares seen v (next s) turn) :
      Prepares seen v (.step change next) turn
  /-- The look at the state. -/
  | looks {α : Type} {change : σ → σ} {next : σ → Activity σ α} {turn : σ → Activity σ α}
      (still : ∀ s, seen s = v → change s = s)
      (rest : ∀ s, seen s = v → Prepares seen v (next s) fun _ => turn s) :
      Prepares seen v (.step change next) turn

variable {seen : σ → ρ} {v : ρ}

/-- Only the runs of a turn count. -/
theorem Prepares.congr {a : Activity σ α} {turn turn' : σ → Activity σ α}
    (h : Prepares seen v a turn)
    (same : ∀ s' s, seen s' = v → seen s = v →
      (turn' s').run false s = (turn s').run false s) : Prepares seen v a turn' := by
  induction h generalizing turn' with
  | ends runs => exact .ends fun s' s hs' hs => (same s' s hs' hs).trans (runs s' s hs' hs)
  | locks keeps after runs =>
    exact .locks keeps after fun s' s hs' hs => (same s' s hs' hs).trans (runs s' s hs' hs)
  | step still _ ih => exact .step still fun s hs => ih s hs same
  | looks still _ ih => exact .looks still fun s hs => ih s hs fun _ t _ ht => same s t hs ht

/-- A step of an activity that prepares changes nothing, and what the activity
amounts to is either left open or settled by the state that was seen. -/
theorem Prepares.of_step {change : σ → σ} {next : σ → Activity σ α}
    {turn : σ → Activity σ α} (h : Prepares seen v (.step change next) turn) {s : σ}
    (hs : seen s = v) :
    change s = s ∧
      ∃ turn', Prepares seen v (next s) turn' ∧ (turn' = turn ∨ turn' = fun _ => turn s) := by
  cases h with
  | step still rest => exact ⟨still s hs, turn, rest s hs, .inl rfl⟩
  | looks still rest => exact ⟨still s hs, _, rest s hs, .inr rfl⟩

/-! ## Checks -/

/-- An activity that sees no more than that `seen` shows `v`, changes nothing and
ends in `r`. -/
inductive Checks (seen : σ → ρ) (v : ρ) {α : Type} : Activity σ α → Except Failure α → Prop
  | ends (r : Except Failure α) : Checks seen v (.ends r) r
  | step {change : σ → σ} {next : σ → Activity σ α} {r : Except Failure α}
      (still : ∀ s, seen s = v → change s = s)
      (rest : ∀ s, seen s = v → Checks seen v (next s) r) :
      Checks seen v (.step change next) r

theorem Checks.run {a : Activity σ α} {r : Except Failure α} (h : Checks seen v a r)
    (held : Bool) {s : σ} (hs : seen s = v) : a.run held s = (r, s) := by
  induction h with
  | ends r => rfl
  | step still _ ih =>
    rw [Activity.run, still s hs]
    exact ih s hs

theorem Checks.andThen {a : Activity σ α} {k : Except Failure α → Activity σ β}
    {r : Except Failure α} {r' : Except Failure β} (first : Checks seen v a r)
    (second : Checks seen v (k r) r') : Checks seen v (a.andThen k) r' := by
  induction first with
  | ends r => exact second
  | step still _ ih => exact .step still fun s hs => ih s hs second

theorem Checks.bind {a : Activity σ α} {k : α → Activity σ β} {r : Except Failure α}
    (first : Checks seen v a r) (second : ∀ x, ∃ r', Checks seen v (k x) r') :
    ∃ r', Checks seen v (a >>= k) r' := by
  cases r with
  | ok x =>
    obtain ⟨r', rest⟩ := second x
    exact ⟨r', first.andThen rest⟩
  | error f => exact ⟨_, first.andThen (.ends (.error f))⟩

/-- What comes after checks decides what an activity amounts to. -/
theorem Checks.prepares {a : Activity σ α} {k : Except Failure α → Activity σ β}
    {r : Except Failure α} {turn : σ → Activity σ β} (first : Checks seen v a r)
    (rest : Prepares seen v (k r) turn) : Prepares seen v (a.andThen k) turn := by
  induction first with
  | ends r => exact rest
  | step still _ ih => exact .step still fun s hs => ih s hs rest

/-! ## Activities that amount to themselves -/

/-- Outside of the lock, an activity sees nothing that could change. -/
def Settled (seen : σ → ρ) (v : ρ) (a : Activity σ α) : Prop :=
  Prepares seen v a fun _ => a

theorem settled_ends (r : Except Failure α) : Settled seen v (.ends r : Activity σ α) :=
  .ends fun _ _ _ _ => rfl

theorem settled_guarded {purpose : Purpose} {w : Steps σ (Except Failure β)}
    {result : Except Failure β → Except Failure α} {next : Except Failure β → Activity σ α}
    (keeps : w.Keeps seen) (after : ∀ r, next r = .ends (result r)) :
    Settled seen v (.guarded purpose (.ofSteps w) next) := by
  refine .locks keeps after fun _ s _ _ => ?_
  rw [Activity.run, run_ofSteps, after]
  rfl

theorem Checks.settled {a : Activity σ α} {k : Except Failure α → Activity σ β}
    {r : Except Failure α} (first : Checks seen v a r) (rest : Settled seen v (k r)) :
    Settled seen v (a.andThen k) := by
  refine (first.prepares rest).congr fun _ s _ hs => ?_
  rw [run_andThen, first.run false hs]

theorem onResult_pure (f : α → β) (r : Except Failure α) :
    onResult (σ := σ) (pure ∘ f) r = .ends (r.map f) := by
  cases r <;> rfl

/-- The result of a bind is changed where its second part ends. -/
theorem map_bind (f : β → γ) (a : Activity σ α) (k : α → Activity σ β) :
    f <$> (a >>= k) = a.andThen fun r => f <$> onResult k r :=
  andThen_assoc a (onResult k) (onResult (pure ∘ f))

/-- Checks in front of an activity that sees nothing that could change. -/
theorem Checks.settled_map_bind {a : Activity σ α} {k : α → Activity σ β}
    {r : Except Failure α} {f : β → γ} (first : Checks seen v a r)
    (rest : ∀ x, Settled seen v (f <$> k x)) : Settled seen v (f <$> (a >>= k)) := by
  rw [map_bind]
  refine first.settled ?_
  cases r with
  | ok x => exact rest x
  | error e => exact settled_ends (.error e)

end Activity

/-! ## The ground of operations -/

/-- What operations look at before they ask for the lock. -/
def Embedding.ground (p : Embedding) : Settings × Option Initialization :=
  (p.session.machine.settings, p.initialized)

/-- Work of an operation keeps the ground of the process. -/
theorem Work.Keeps.ground {α : Type} {w : Work α} (h : w.Keeps) :
    (w.run.on Embedding.inSession).Keeps Embedding.ground := by
  have session : (w.run.on Embedding.inSession).Keeps fun p =>
      (Embedding.inSession.get p).machine.settings := Steps.Keeps.on h
  have initialized : (w.run.on Embedding.inSession).Keeps fun p => p.initialized :=
    Steps.keeps_on (fun _ _ => rfl) w.run
  exact session.pair initialized

namespace Op

open Activity

variable {α β : Type} {t : Settings} {i : Option Initialization}

/-- Work with the lock on an interpreter that is ready sees nothing before the
lock that could change. -/
theorem settled_locked {i : Initialization} {w : Work α} (keeps : w.Keeps) (f : α → β) :
    Settled Embedding.ground (t, some i) (f <$> locked (ofWork w)) := by
  have body : Settled Embedding.ground (t, some i)
      (.guarded .use (ofWork w) (onResult (pure ∘ f)) : Op β) :=
    settled_guarded keeps.ground (onResult_pure f)
  refine .step (fun _ _ => rfl) fun p hp => ?_
  obtain ⟨session, initialized, libraries⟩ := p
  obtain rfl : initialized = some i := congrArg Prod.snd hp
  show Prepares Embedding.ground (t, some i)
    (.guarded .use (ofWork w) (onResult (pure ∘ f)) : Op β) _
  refine body.congr fun _ p' _ hp' => ?_
  have ready : p'.initialized = some i := congrArg Prod.snd hp'
  show ((locked (ofWork w)).andThen (onResult (pure ∘ f))).run false p' = _
  rw [run_andThen, run_locked_of_some _ _ _ ready]
  rfl

/-! ## Checks of operations -/

theorem checks_ofExcept (r : Except HostError α) :
    Checks Embedding.ground (t, i) (ofExcept r) (r.mapError .error) := by
  cases r with
  | ok a => exact .ends _
  | error e => exact .ends _

/-- What a silent machine is not changed by is a check. -/
theorem checks_changeMachine {f : Machine → Machine} (h : ∀ m, m.settings = t → f m = m) :
    Checks Embedding.ground (t, i) (changeMachine f) (.ok ()) := by
  refine .step (fun p hp => ?_) fun _ _ => .ends _
  have same := h p.session.machine (congrArg Prod.fst hp)
  show { p with session := { p.session with machine := f p.session.machine } } = p
  rw [same]

theorem checks_tell (silent : t.IsSilent) (message : String) :
    Checks Embedding.ground (t, i) (tell .debug message) (.ok ()) :=
  checks_changeMachine fun _ hm => Machine.tell_debug_of_silent (hm ▸ silent) message

end Op

namespace Host

open Activity

variable {t : Settings} {i : Option Initialization}

theorem checks_scriptAt (path : String) :
    Checks Embedding.ground (t, i) (scriptAt path)
      ((Script.ofPath t.home? path).mapError fun fault =>
        .error (.configuration (.script fault))) := by
  refine .step (fun _ _ => rfl) fun p hp => ?_
  have home : p.session.machine.home? = t.home? := by
    rw [Machine.home?_eq, show p.session.machine.settings = t from congrArg Prod.fst hp]
  show Checks _ _ (Op.ofExcept ((Script.ofPath p.session.machine.home? path).mapError _)) _
  rw [home]
  cases Script.ofPath t.home? path <;> exact .ends _

theorem checks_checkParams (silent : t.IsSilent) (params : Option Table) :
    ∃ r, Checks Embedding.ground (t, i) (checkParams params) r := by
  cases params with
  | none => exact ⟨_, .ends _⟩
  | some table =>
    have noted : Checks Embedding.ground (t, i)
        (Op.changeMachine (·.noteUnusedRows table)) (.ok ()) :=
      Op.checks_changeMachine fun _ hm => Machine.noteUnusedRows_of_silent (hm ▸ silent) table
    refine noted.bind fun _ => (Op.checks_ofExcept _).bind fun _ => ⟨_, .ends _⟩

/-- Runs the script at a path as it is in some files. -/
def runSeeing (h : Host) (files : FileSystem) (path : String) : Op Unit := do
  let script ← scriptAt path
  h.runRead script (files.readSource script.file)

theorem settled_runRead {i : Initialization} (silent : t.IsSilent) (h : Host) (script : Script)
    (reading : Except FileFault Source) {β : Type} (f : Unit → β) :
    Settled Embedding.ground (t, some i) (f <$> h.runRead script reading) :=
  (Op.checks_ofExcept _).settled_map_bind fun _ =>
    (Op.checks_tell silent _).settled_map_bind fun _ =>
      Op.settled_locked ((Work.keeps_extendPath _).bind fun _ => Work.isClosed_keeps.execute _ _) f

/-- To run a script is to run what was read of it. -/
theorem prepares_runFile {i : Initialization} (silent : t.IsSilent) (h : Host) (path : String) {β : Type}
    (f : Unit → β) :
    Prepares Embedding.ground (t, some i) (f <$> h.runFile path)
      fun p => f <$> h.runSeeing p.session.machine.files path := by
  have named := checks_scriptAt (t := t) (i := some i) path
  show Prepares _ _ (f <$> (scriptAt path >>= _)) fun p => f <$> (scriptAt path >>= _)
  simp only [map_bind]
  revert named
  generalize (Script.ofPath t.home? path).mapError _ = found
  intro named
  refine named.prepares ?_
  cases found with
  | error e =>
    refine .ends fun _ p _ hp => ?_
    rw [run_andThen, named.run false hp]
    rfl
  | ok script =>
    refine .looks (fun _ _ => rfl) fun p hp => ?_
    have read := settled_runRead (i := i) silent h script
      (p.session.machine.files.readSource script.file) f
    refine read.congr fun _ p' _ hp' => ?_
    rw [run_andThen, named.run false hp']
    rfl

end Host

namespace Call

open Activity Op

/-- What a call does, except that a script is run as it is in some files. -/
def opSeeing (h : Host) (files : FileSystem) : Call → Op Reply
  | runFile path => (fun _ => .unit) <$> h.runSeeing files path
  | call => call.op h

/-- A call that finds the interpreter ready and the log silent amounts to itself,
but the script that it runs is what it saw of it before it had the lock. -/
theorem prepares {t : Settings} (silent : t.IsSilent) (i : Initialization) (h : Host)
    (call : Call) :
    Prepares Embedding.ground (t, some i) (call.op h)
      fun p => call.opSeeing h p.session.machine.files := by
  have keeps := Work.isClosed_keeps
  cases call with
  | importModule name =>
    exact settled_locked (keeps.bind (keeps.importModule name) fun _ =>
      keeps.bind keeps.elapsed fun _ => keeps.tell _ _) _
  | setPath entry => exact settled_locked (Work.keeps_extendPath entry) _
  | searchPath => exact settled_locked (keeps.bind keeps.engine fun _ => keeps.value _) _
  | refreshImports => exact settled_locked (keeps.tell _ _) _
  | execute source scope => exact settled_locked (keeps.execute source scope) _
  | runFile path => exact Host.prepares_runFile silent h path _
  | callScript source function params type =>
    obtain ⟨r, checked⟩ := Host.checks_checkParams (i := some i) silent params
    exact (checks_ofExcept _).settled_map_bind fun _ =>
      (checks_ofExcept _).settled_map_bind fun _ => checked.settled_map_bind fun _ =>
        settled_locked (keeps.bind (keeps.callNamed source function params) fun _ =>
          keeps.bind keeps.elapsed fun _ => keeps.bind (keeps.tell _ _) fun _ =>
            keeps.ofExcept _) _
  | callFile path function params type =>
    obtain ⟨r, checked⟩ := Host.checks_checkParams (i := some i) silent params
    exact (Host.checks_scriptAt path).settled_map_bind fun script =>
      (checks_ofExcept _).settled_map_bind fun _ => checked.settled_map_bind fun _ =>
        settled_locked ((Work.keeps_extendPath _).bind fun _ =>
          keeps.bind (keeps.callModule _ function params) fun _ => keeps.ofExcept _) _
  | initPip launch =>
    exact settled_locked (keeps.install launch h.target h.config) _

/-- A call of a lone thread sees the script as it is then. -/
theorem run_opSeeing {files : FileSystem} {h : Host} {call : Call} {p : Embedding}
    (same : ∀ path script, call = .runFile path →
      Script.ofPath p.session.machine.home? path = .ok script →
      files.readSource script.file = p.session.machine.files.readSource script.file) :
    (call.opSeeing h files).run false p = (call.op h).run false p := by
  cases call with
  | runFile path =>
    have named := Host.checks_scriptAt (t := p.session.machine.settings)
      (i := p.initialized) path
    show (_ <$> (Host.scriptAt path >>= _)).run false p =
      (_ <$> (Host.scriptAt path >>= _)).run false p
    rw [map_bind, map_bind, run_andThen, run_andThen, named.run false rfl,
      ← Machine.home?_eq]
    cases found : Script.ofPath p.session.machine.home? path with
    | error e => rfl
    | ok script =>
      show (_ <$> h.runRead script (files.readSource script.file)).run false p = _
      rw [same path script rfl found]
      rfl
  | _ => rfl

end Call

end EmbeddedPython
