import EmbeddedPython.Proofs.Lifetime.Protocol

/-!
# Every client keeps to the protocol

Attempts, the ends of hosts and calls are followed step by step, in whatever
states they take their steps.  `Client.obeys` puts them together.  After this the
code itself is no longer looked at: what threads do to the state of
initialization and to libraries is what the protocol allows.
-/

namespace EmbeddedPython

/-! ## Work -/

/-- Whatever the work sees on its way, it ends as `Q` says. -/
inductive Steps.Ends {σ α : Type} (Q : α → Prop) : Steps σ α → Prop
  | done {a : α} (h : Q a) : Ends Q (.done a)
  | step {change : σ → σ} {next : σ → Steps σ α} (rest : ∀ s, (next s).Ends Q) :
      Ends Q (.step change next)

theorem Steps.Ends.bind {σ α β : Type} {Q : α → Prop} {R : β → Prop} {w : Steps σ α}
    {k : α → Steps σ β} (first : w.Ends Q) (second : ∀ a, Q a → (k a).Ends R) :
    (w >>= k).Ends R := by
  show (w.bind k).Ends R
  induction first with
  | done h => exact second _ h
  | step _ ih => exact .step ih

theorem Steps.Ends.run {σ α : Type} {Q : α → Prop} {w : Steps σ α} (h : w.Ends Q) (s : σ) :
    Q (w.run s).1 := by
  induction h generalizing s with
  | done h => exact h
  | @step change _ _ ih => exact ih s (change s)

theorem Steps.ends_of_all {σ α : Type} {Q : α → Prop} (h : ∀ a, Q a) (w : Steps σ α) :
    w.Ends Q := by
  induction w with
  | done a => exact .done (h a)
  | step change next ih => exact .step ih

/-- An end in a result, or in a failure of some kind. -/
def FailsOnly {α : Type} (Kind : Failure → Prop) (r : Except Failure α) : Prop :=
  ∀ f, r = .error f → Kind f

namespace FailsOnly

variable {α : Type} {Kind : Failure → Prop}

theorem ok (a : α) : FailsOnly Kind (.ok a : Except Failure α) := fun _ h => nomatch h

theorem error {f : Failure} (h : Kind f) : FailsOnly Kind (.error f : Except Failure α) :=
  fun _ hf => Except.error.inj hf ▸ h

end FailsOnly

namespace Work

variable {α β : Type} {Kind : Failure → Prop}

/-- Work that can fail in some way only. -/
def Fails (Kind : Failure → Prop) (w : Work α) : Prop := Steps.Ends (FailsOnly Kind) w.run

theorem fails_pure (a : α) : (pure a : Work α).Fails Kind := .done (.ok a)

theorem Fails.bind {w : Work α} {k : α → Work β} (first : w.Fails Kind)
    (second : ∀ a, (k a).Fails Kind) : (w >>= k).Fails Kind := by
  refine Steps.Ends.bind first fun r fails => ?_
  cases r with
  | ok a => exact second a
  | error f => exact .done (.error (fails f rfl))

theorem fails_ofExcept {r : Except HostError α} (h : ∀ e, r = .error e → Kind (.error e)) :
    (ofExcept r).Fails Kind := by
  cases r with
  | ok a => exact fails_pure a
  | error e => exact .done (.error (h e rfl))

theorem fails_machine : machine.Fails Kind := .step fun _ => fails_pure _

theorem fails_engine : engine.Fails Kind := .step fun _ => fails_pure _

theorem fails_elapsed : elapsed.Fails Kind := fails_machine.bind fun _ => fails_pure _

theorem fails_changeMachine (f : Machine → Machine) : (changeMachine f).Fails Kind :=
  .step fun _ => fails_pure _

theorem fails_changeEngine (f : Engine → Engine) : (changeEngine f).Fails Kind :=
  .step fun _ => fails_pure _

theorem fails_tell (level : Log.Level) (message : String) : (tell level message).Fails Kind :=
  fails_changeMachine _

theorem fails_ofMachine {f : Machine → Except HostError α × Machine}
    (h : ∀ m e, (f m).1 = .error e → Kind (.error e)) : (ofMachine f).Fails Kind :=
  .step fun s => fails_ofExcept (h s.machine)

end Work

/-! ## Operations in a world -/

/-- An operation that stays at its stage and can fail in some way only. -/
def Stays {α : Type} (g : Stage) (Kind : Failure → Prop) (g' : Stage) (r : Except Failure α) :
    Prop :=
  g' = g ∧ FailsOnly Kind r

namespace Op

variable {α β : Type} {g : Stage} {Kind : Failure → Prop}

/-- An operation keeps to the protocol in a world. -/
def Follows (g : Stage) (op : Op α) (Post : Stage → Except Failure α → Prop) : Prop :=
  Obeys g (op.on World.inEmbedding) Post

theorem Follows.andThen {op : Op α} {k : Except Failure α → Op β}
    {Between : Stage → Except Failure α → Prop} {Post : Stage → Except Failure β → Prop}
    (first : Follows g op Between) (second : ∀ g' r, Between g' r → Follows g' (k r) Post) :
    Follows g (op.andThen k) Post := by
  rw [Follows, Activity.on_andThen]
  exact Obeys.andThen first second

/-- An operation after which another one starts, unless it fails. -/
theorem Follows.bind {op : Op α} {k : α → Op β} {Between : Stage → Except Failure α → Prop}
    {Post : Stage → Except Failure β → Prop} (first : Follows g op Between)
    (failed : ∀ g' f, Between g' (.error f) → Post g' (.error f))
    (second : ∀ g' a, Between g' (.ok a) → Follows g' (k a) Post) :
    Follows g (op >>= k) Post := by
  refine Follows.andThen first fun g' r between => ?_
  cases r with
  | ok a => exact second g' a between
  | error f => exact .ends (failed g' f between)

theorem Follows.mono {op : Op α} {Post Post' : Stage → Except Failure α → Prop}
    (h : Follows g op Post) (imp : ∀ g' r, Post g' r → Post' g' r) : Follows g op Post' :=
  Obeys.mono h imp

theorem follows_ends {r : Except Failure α} {Post : Stage → Except Failure α → Prop}
    (post : Post g r) : Follows g (.ends r) Post :=
  .ends post

/-- The same for an operation that stays at its stage. -/
theorem Follows.then {op : Op α} {k : α → Op β} {Post : Stage → Except Failure β → Prop}
    (first : Follows g op (Stays g Kind)) (failed : ∀ f, Kind f → Post g (.error f))
    (second : ∀ a, Follows g (k a) Post) : Follows g (op >>= k) Post := by
  refine Follows.bind first ?_ ?_
  · rintro _ f ⟨rfl, fails⟩
    exact failed f (fails f rfl)
  · rintro _ a ⟨rfl, -⟩
    exact second a

/-- Work with the session stays at its stage. -/
private theorem follows_steps (works : g.Works) {Q : Except Failure α → Prop}
    {w : Steps Session (Except Failure α)} (ends : w.Ends Q) :
    Follows g (.ofSteps (w.on Embedding.inSession)) fun g' r => g' = g ∧ Q r := by
  induction ends with
  | done h => exact .ends ⟨rfl, h⟩
  | step _ ih =>
    exact Obeys.stay (fun _ _ _ => .works works rfl rfl rfl) fun w _ _ => ih _

theorem follows_ofWork (works : g.Works) {w : Work α} (fails : w.Fails Kind) :
    Follows g (ofWork w) (Stays g Kind) :=
  follows_steps works fails

theorem follows_tell (works : g.Works) (level : Log.Level) (message : String) :
    Follows g (tell level message) (Stays g Kind) :=
  follows_ofWork works (Work.fails_tell level message)

/-- A look at the machine. -/
theorem follows_machine : Follows g machine (Stays g Kind) :=
  Obeys.stay (fun _ _ _ => .idle) fun _ _ _ => .ends ⟨rfl, .ok _⟩

theorem follows_ofExcept {r : Except HostError α} (h : ∀ e, r = .error e → Kind (.error e)) :
    Follows g (ofExcept r) (Stays g Kind) := by
  cases r with
  | ok a => exact .ends ⟨rfl, .ok a⟩
  | error e => exact .ends ⟨rfl, .error (h e rfl)⟩

end Op

/-! ## Attempts -/

namespace Host

open Op

/-- Recording what initialized the interpreter does not fail, since nothing did
before: the failure for that case does not matter. -/
theorem follows_record (already : Failure) (i : Initialization) (number : Nat) :
    Follows (.opened number) (record already i)
      fun g r => g = .recorded number ∧ FailsOnly (fun _ => False) r := by
  refine .step (fun _ => .recorded number) (fun w _ fits => .records fits) fun w _ fits => ?_
  obtain ⟨⟨session, initialized, libraries⟩, hosts⟩ := w
  obtain rfl : initialized = none := fits
  refine .stay (fun _ _ _ => .idle) fun w _ fits => ?_
  obtain ⟨⟨session, initialized, libraries⟩, hosts⟩ := w
  cases initialized with
  | none => cases fits
  | some n => exact .ends ⟨rfl, .ok ()⟩

/-- The interpreter is initialized, or it turns out in time that it does not
start. -/
theorem follows_start (already : Failure) (i : Installation) (library : Library) (number : Nat) :
    Follows (.opened number) (start already i library) fun g r =>
      match r with
      | .ok () => g = .recorded number
      | .error f => g = .opened number ∧ f.IsPlain := by
  have works : (Stage.opened number).Works := trivial
  -- What the first part of the operation may end in.
  let Post : Stage → Except Failure Unit → Prop := fun g r =>
    match r with
    | .ok () => g = .recorded number
    | .error f => g = .opened number ∧ f.IsPlain
  have failed : ∀ f : Failure, f.IsPlain → Post (.opened number) (.error f) :=
    fun f plain => ⟨rfl, plain⟩
  have recorded : Follows (.opened number) (record already ⟨i.version, library.path⟩) Post := by
    refine (follows_record already _ number).mono ?_
    rintro _ (f | ⟨⟩) ⟨rfl, fails⟩
    · exact (fails f rfl).elim
    · rfl
  refine (follows_ofWork works Work.fails_elapsed).then failed fun elapsed => ?_
  refine (follows_tell works _ _).then failed fun _ => ?_
  refine (follows_ofWork works Work.fails_engine).then failed fun engine => ?_
  have warned : Follows (.opened number) (do
      if !i.version.covers Engine.series then
        .tell .warning
          ("Python version mismatch: requested " ++ i.version.text
            ++ ", but the interpreter reports " ++ Engine.series.text)
      record already ⟨i.version, library.path⟩) Post := by
    dsimp only
    split
    · exact (follows_tell works _ _).then failed fun _ => recorded
    · exact recorded
  dsimp only
  split
  · exact (follows_ends ⟨rfl, .error ⟨_, rfl, by simp⟩⟩ :
      Follows _ _ (Stays _ Failure.IsPlain)).then failed fun _ => warned
  · exact warned

/-- No stage in front of the start tells of an interpreter that was found. -/
theorem targetOf_error {config : Config} {e : HostError} (h : targetOf config = .error e) :
    e ≠ .alreadyInitialized := by
  unfold targetOf at h
  cases found : Installation.resolve config.root config.version with
  | ok i => rw [found] at h; cases h
  | error fault =>
    rw [found] at h
    obtain rfl := Except.error.inj h
    simp

/-- A library is not found, or it does not load. -/
theorem locateLibrary_error_cases {m : Machine} {i : Installation} {e : HostError}
    (h : (m.locateLibrary i).1 = .error e) :
    (∃ root expected, e = .libraryNotFound root expected) ∨ ∃ path, e = .libraryLoad path := by
  unfold Machine.locateLibrary at h
  dsimp only at h
  split at h
  · unfold Machine.loadLibrary at h
    split at h
    · exact .inl ⟨_, _, (Except.error.inj h).symm⟩
    · dsimp only at h
      split at h
      · exact .inr ⟨_, (Except.error.inj h).symm⟩
      · cases h
  · exact .inl ⟨_, _, (Except.error.inj h).symm⟩

theorem locateLibrary_error {m : Machine} {i : Installation} {e : HostError}
    (h : (m.locateLibrary i).1 = .error e) : e ≠ .alreadyInitialized := by
  rcases locateLibrary_error_cases h with ⟨root, expected, rfl⟩ | ⟨path, rfl⟩ <;> simp

theorem follows_installEnvironment (i : Installation) :
    Follows .unset (installEnvironment i) (Stays .unset Failure.IsPlain) := by
  have failed : ∀ f : Failure, f.IsPlain → Stays .unset Failure.IsPlain .unset
      (.error f : Except Failure Unit) := fun f plain => ⟨rfl, .error plain⟩
  refine follows_machine.then failed fun m => ?_
  refine (follows_ofExcept fun e he => ⟨e, rfl, ?_⟩).then failed fun plan =>
    follows_ofWork (show Stage.unset.Works from trivial) (Work.fails_changeMachine _)
  cases planned : m.planFor i with
  | ok plan => rw [planned] at he; cases he
  | error fault =>
    rw [planned] at he
    obtain rfl := Except.error.inj he
    simp

/-- A library is opened, or nothing is in hand. -/
theorem follows_openLibrary (i : Installation) :
    Follows .unset (Op.openLibrary i) fun g r =>
      match r with
      | .ok library => g = .opened library.number
      | .error f => g = .unset ∧ f.IsPlain := by
  have located : Follows .unset (Op.ofMachine (·.locateLibrary i))
      (Stays .unset Failure.IsPlain) :=
    follows_ofWork (show Stage.unset.Works from trivial)
      (Work.fails_ofMachine fun m e he => ⟨e, rfl, locateLibrary_error he⟩)
  refine located.then (fun f plain => ⟨rfl, plain⟩) fun path => ?_
  exact .step (fun w => .opened w.libraries.opened) (fun _ _ _ => .opens) fun _ _ _ => .ends rfl

theorem fails_forwardLogging {Kind : Failure → Prop} : forwardLogging.Fails Kind := by
  refine Work.fails_machine.bind fun m => ?_
  dsimp only
  split
  · exact Work.fails_tell _ _
  · exact (Work.fails_changeEngine _).bind fun _ => Work.fails_tell _ _

/-- An attempt that found no interpreter. -/
theorem follows_embed (already : Failure) (config : Config) :
    Follows .unset (embed already config) Attempted := by
  have failed : ∀ f : Failure, f.IsPlain → Attempted .unset (.error f) :=
    fun f plain => .inl ⟨rfl, plain⟩
  refine (follows_ofExcept fun e he => ⟨e, rfl, targetOf_error he⟩).then failed fun target => ?_
  refine (follows_tell (show Stage.unset.Works from trivial) _ _).then failed fun _ => ?_
  refine (follows_installEnvironment target).then failed fun _ => ?_
  refine (follows_openLibrary target).bind ?_ fun g library hg => ?_
  · rintro _ f ⟨rfl, plain⟩
    exact failed f plain
  obtain rfl : g = .opened library.number := hg
  -- The library is given back unless the interpreter starts.
  have started : Follows (.opened library.number)
      ((start already target library).orClear (·.releaseLibrary library)) fun g r =>
        match r with
        | .ok () => g = .recorded library.number
        | .error f => g = .unset ∧ f.IsPlain := by
    refine (follows_start already target library library.number).andThen fun g r hr => ?_
    cases r with
    | ok _ => exact .ends hr
    | error f =>
      obtain ⟨rfl, plain⟩ := hr
      exact .step (fun _ => .unset) (fun _ _ _ => .clears) fun _ _ _ => .ends ⟨rfl, plain⟩
  refine started.bind ?_ fun g _ hg => ?_
  · rintro _ f ⟨rfl, plain⟩
    exact failed f plain
  obtain rfl : g = .recorded library.number := hg
  have works : (Stage.recorded library.number).Works := trivial
  have never : ∀ f : Failure, False → Attempted (.recorded library.number) (.error f) :=
    fun _ h => h.elim
  refine (follows_ofWork works Work.fails_engine).then never fun engine => ?_
  refine (follows_tell works _ _).then never fun _ => ?_
  refine follows_machine.then never fun m => ?_
  have told : Follows (.recorded library.number) (do
      let elapsed ← .ofWork .elapsed
      .tell .debug ("Total host initialization took: " ++ elapsed)
      return ⟨target, config, some library⟩) Attempted :=
    (follows_ofWork works Work.fails_elapsed).then never fun _ =>
      (follows_tell works _ _).then never fun _ => follows_ends ⟨library, rfl, rfl⟩
  dsimp only
  split
  · exact (follows_ofWork works fails_forwardLogging).then never fun _ => told
  · exact told

/-- An attempt, with the lock. -/
theorem follows_constructOr (already : Failure) (config : Config) (ready : Bool) :
    Follows (.free ready) (constructOr already config) fun g r =>
      match r with
      | .ok h => ∃ library, h.library = some library ∧ g = .holding library.number
      | .error _ => g = .free false := by
  refine .attempt ?_ (fun h library has => .ends ⟨library, has, rfl⟩) fun f => .ends rfl
  refine .step (fun w => if w.initialized.isSome then .refused else .unset)
    (fun w _ _ => ?_) fun w _ _ => ?_
  · cases found : w.initialized with
    | some n => exact .findsReady (by rw [found]; rfl)
    | none => exact .findsNone found
  · obtain ⟨⟨session, initialized, libraries⟩, hosts⟩ := w
    cases initialized with
    | some n => exact .ends (.inr ⟨rfl, rfl⟩)
    | none => exact follows_embed already config

/-! ## The end of a host -/

/-- A host that is closed gives its library back, and has nothing left to give
back when it is dropped after that. -/
theorem follows_releaseLibrary {h : Host} {library : Library} (has : h.library = some library) :
    Follows (.holding library.number) h.releaseLibrary fun g r =>
      g = .free false ∧ r = .ok { h with library := none } := by
  have works : (Stage.holding library.number).Works := trivial
  have told (message : String) : Follows (.holding library.number) (tell .debug message)
      (Stays (.holding library.number) fun _ => False) :=
    follows_tell works _ message
  unfold releaseLibrary
  rw [has]
  refine (told _).bind ?_ ?_
  · rintro _ f ⟨rfl, fails⟩
    exact (fails f rfl : False).elim
  · rintro _ _ ⟨rfl, -⟩
    exact .step (fun _ => .free false) (fun _ _ _ => .releases) fun _ _ _ => .ends ⟨rfl, rfl⟩

theorem follows_drop {h : Host} {library : Library} (has : h.library = some library) :
    Follows (.holding library.number) h.drop Over := by
  refine (follows_releaseLibrary has).bind ?_ ?_
  · rintro _ f ⟨-, hf⟩
    cases hf
  · rintro _ _ ⟨rfl, -⟩
    exact .ends ⟨false, rfl⟩

theorem follows_close {h : Host} {library : Library} (has : h.library = some library) :
    Follows (.holding library.number) h.close Over := by
  refine (follows_releaseLibrary has).bind ?_ ?_
  · rintro _ f ⟨-, hf⟩
    cases hf
  · rintro _ _ ⟨rfl, hr⟩
    obtain rfl := Except.ok.inj hr
    exact .ends ⟨false, rfl⟩

end Host

/-! ## Calls -/

namespace Op

variable {α β : Type} {ready : Bool}

/-- Any work with the session stays at its stage. -/
theorem follows_work {g : Stage} (works : g.Works) (w : Work α) :
    Follows g (ofWork w) (Stays g fun _ => True) :=
  follows_ofWork works (Steps.ends_of_all (fun _ _ _ => trivial) w.run)

/-- The interpreter is found ready before the lock is asked for. -/
theorem follows_locked (w : Work α) : Follows (.free ready) (locked (ofWork w)) Over := by
  refine .step (fun w => if w.initialized.isSome then .free true else .free ready)
    (fun p _ _ => ?_) fun p _ _ => ?_
  · cases found : p.initialized with
    | some n => exact .seesReady (by rw [found]; rfl)
    | none => exact .idle
  · obtain ⟨⟨session, initialized, libraries⟩, hosts⟩ := p
    cases initialized with
    | none => exact .ends ⟨ready, rfl⟩
    | some n =>
      refine .use ?_ fun r => .ends ⟨false, rfl⟩
      refine (follows_work (g := .free false) trivial w).mono ?_
      rintro _ _ ⟨rfl, -⟩
      exact ⟨false, rfl⟩

theorem Follows.map {op : Op α} {f : α → β} {g : Stage} (h : Follows g op Over) :
    Follows g (f <$> op) Over :=
  h.bind (fun _ _ ended => ended) fun _ _ ended => .ends ended

end Op

namespace Host

open Op

variable {ready : Bool}

theorem follows_look :
    Follows (.free ready) machine (Stays (.free ready) fun _ => True) :=
  follows_machine

theorem follows_scriptAt (path : String) :
    Follows (.free ready) (scriptAt path) (Stays (.free ready) fun _ => True) := by
  refine follows_look.then (fun _ _ => ⟨rfl, fun _ _ => trivial⟩) fun _ => ?_
  exact follows_ofExcept fun _ _ => trivial

theorem follows_checkParams (params : Option Table) :
    Follows (.free ready) (checkParams params) (Stays (.free ready) fun _ => True) := by
  have failed : ∀ f : Failure, True → Stays (.free ready) (fun _ => True) (.free ready)
      (.error f : Except Failure Unit) := fun _ _ => ⟨rfl, fun _ _ => trivial⟩
  cases params with
  | none => exact .ends ⟨rfl, .ok ()⟩
  | some t =>
    refine (follows_work (g := .free ready) trivial _).then failed fun _ => ?_
    exact (follows_ofExcept fun _ _ => trivial).then failed fun _ => .ends ⟨rfl, .ok ()⟩

theorem follows_runFile (h : Host) (path : String) : Follows (.free ready) (h.runFile path) Over := by
  have failed : ∀ f : Failure, True → Over (.free ready) (.error f : Except Failure Unit) :=
    fun _ _ => ⟨ready, rfl⟩
  refine (follows_scriptAt path).then failed fun script => ?_
  refine follows_look.then failed fun m => ?_
  refine (follows_ofExcept fun _ _ => trivial).then failed fun source => ?_
  exact (follows_work (g := .free ready) trivial _).then failed fun _ => follows_locked _

end Host

/-- Every call keeps to the protocol. -/
theorem Call.follows (h : Host) (call : Call) (ready : Bool) :
    Op.Follows (.free ready) (call.op h) Over := by
  have failed {α : Type} : ∀ f : Failure, True → Over (.free ready) (.error f : Except Failure α) :=
    fun _ _ => ⟨ready, rfl⟩
  cases call with
  | importModule name => exact (Op.follows_locked _).map
  | setPath entry => exact (Op.follows_locked _).map
  | searchPath => exact (Op.follows_locked _).map
  | refreshImports => exact (Op.follows_locked _).map
  | execute source scope => exact (Op.follows_locked _).map
  | runFile path => exact (Host.follows_runFile h path).map
  | callScript source function params type =>
    refine Op.Follows.map ?_
    refine (Op.follows_ofExcept fun _ _ => trivial).then failed fun _ => ?_
    refine (Op.follows_ofExcept fun _ _ => trivial).then failed fun _ => ?_
    exact (Host.follows_checkParams params).then failed fun _ => Op.follows_locked _
  | callFile path function params type =>
    refine Op.Follows.map ?_
    refine (Host.follows_scriptAt path).then failed fun script => ?_
    refine (Op.follows_ofExcept fun _ _ => trivial).then failed fun _ => ?_
    exact (Host.follows_checkParams params).then failed fun _ => Op.follows_locked _
  | initPip launch => exact (Op.follows_locked _).map

/-! ## Clients -/

namespace Client

/-- Whoever takes a host out of the world ends it. -/
theorem obeys_endHost {index : Nat} {finish : Host → Op Unit} {next : Activity World Unit}
    (finishes : ∀ h library, h.library = some library →
      Op.Follows (.holding library.number) (finish h) Over)
    (rest : ∀ ready, Obeys (.free ready) next Over) (ready : Bool) :
    Obeys (.free ready) (endHost index finish next) Over := by
  refine .step (fun w => match w.hosts[index]?.bind Host.library with
    | some library => .holding library.number
    | none => .free ready) (fun w sound _ => ?_) fun w sound _ => ?_
  · cases found : w.hosts[index]? with
    | none =>
      have same : w.removeHost index = w := by
        unfold World.removeHost
        rw [List.eraseIdx_of_length_le (List.getElem?_eq_none_iff.mp found)]
      rw [same]
      exact .idle
    | some h =>
      obtain ⟨library, has⟩ := Option.isSome_iff_exists.mp (sound h (List.mem_of_getElem? found))
      simp only [Option.bind_some, has]
      exact .removes found has
  · cases found : w.hosts[index]? with
    | none => exact rest ready
    | some h =>
      obtain ⟨library, has⟩ := Option.isSome_iff_exists.mp (sound h (List.mem_of_getElem? found))
      simp only [Option.bind_some, has]
      refine Obeys.andThen (finishes h library has) ?_
      rintro _ _ ⟨b, rfl⟩
      exact rest b

/-- Every client keeps to the protocol. -/
theorem obeys (already : Failure) (client : Client) (ready : Bool) :
    Obeys (.free ready) (client.activity already) Over := by
  induction client generalizing ready with
  | stop => exact .ends ⟨ready, rfl⟩
  | fails f => exact .ends ⟨ready, rfl⟩
  | construct config next ih =>
    rw [activity]
    refine Obeys.andThen (Host.follows_constructOr already config ready) fun g r hr => ?_
    cases r with
    | ok h =>
      obtain ⟨library, has, rfl⟩ := hr
      exact .step (fun _ => .free false) (fun _ _ _ => .adds has) fun _ _ _ => ih (.ok ()) false
    | error f =>
      obtain rfl : g = .free false := hr
      exact ih (.error f) false
  | call index operation next ih =>
    rw [activity]
    refine .stay (fun _ _ _ => .idle) fun w _ _ => ?_
    cases w.hosts[index]? with
    | none => exact ih none ready
    | some h =>
      refine Obeys.andThen (Call.follows h operation ready) ?_
      rintro _ r ⟨b, rfl⟩
      exact ih (some r) b
  | close index next ih => exact obeys_endHost (fun _ _ has => Host.follows_close has) ih ready
  | drop index next ih => exact obeys_endHost (fun _ _ has => Host.follows_drop has) ih ready
  | within inner next ihInner ih =>
    refine .step (fun w => if w.initialized.isSome then .free true else .free ready)
      (fun p _ _ => ?_) fun p _ _ => ?_
    · cases found : p.initialized with
      | some n => exact .seesReady (by rw [found]; rfl)
      | none => exact .idle
    · obtain ⟨⟨session, initialized, libraries⟩, hosts⟩ := p
      cases initialized with
      | none => exact ih _ ready
      | some n => exact .use (ihInner false) fun r => ih r false

end Client

end EmbeddedPython
