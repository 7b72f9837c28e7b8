import EmbeddedPython.Proofs.Calls.Sessions
import EmbeddedPython.Proofs.Lifetime.Candidates
import EmbeddedPython.Proofs.Lifetime.Success

/-!
# What attempts do to the environment

An attempt sets the three variables of an installation as soon as it knows that
they can be set, and whatever it does later leaves them alone.  So attempts that
fail leave their mark on the environment as well.

`Attempt.effective?` says which attempts these are, and `Attempts.account` what
the variables are after attempts one after another.
-/

namespace EmbeddedPython

/-! ## Plans -/

namespace Plan

/-- The separator is no part of the text of a series. -/
theorem not_mem_ofText_series (v : Version) :
    separator ∉ Octets.ofText ("python" ++ v.text) := by
  rw [Octets.ofText_append, List.mem_append, not_or]
  refine ⟨by decide, v.not_mem_ofText_text (by decide) fun c same => ?_⟩
  obtain rfl : c = ':' := Char.ext (UInt32.toNat_inj.1 same)
  decide

/-- What is below a directory has a separator just if the directory has. -/
theorem mem_below_iff (p : Path) {name : String} (relative : (Path.ofText name).isAbsolute = false)
    (plain : separator ∉ Octets.ofText name) :
    separator ∈ (p / name).octets ↔ separator ∈ p.octets := by
  show separator ∈ (p.join (Path.ofText name)).octets ↔ _
  rw [Path.mem_join_iff (by decide) p relative]
  exact or_iff_left plain

theorem isAbsolute_series (v : Version) :
    (Path.ofText ("python" ++ v.text)).isAbsolute = false := by
  rw [Path.isAbsolute, Path.ofText, Octets.ofText, String.toList_append, List.flatMap_append]
  rfl

/-- The separator is in an entry of an installation just if it is in the root. -/
theorem exists_mem_ownEntries_iff (i : Installation) :
    (∃ entry ∈ ownEntries i, separator ∈ entry.octets) ↔ separator ∈ i.root.octets := by
  constructor
  · rintro ⟨entry, mem, bad⟩
    simp only [ownEntries, List.mem_cons, List.not_mem_nil, or_false] at mem
    rcases mem with rfl | rfl | rfl
    · exact bad
    · exact (mem_below_iff _ rfl (by decide)).1 bad
    · exact (mem_below_iff _ rfl (by decide)).1 <|
        (mem_below_iff _ (isAbsolute_series i.version) (not_mem_ofText_series i.version)).1 <|
          (mem_below_iff _ rfl (by decide)).1 bad
  · exact fun bad => ⟨_, List.mem_cons_self, bad⟩

/-- The inherited entries have no separator. -/
theorem not_mem_inheritedEntries {inherited : Option Octets} {entry : Octets}
    (h : entry ∈ inheritedEntries inherited) : separator ∉ entry := by
  unfold inheritedEntries at h
  split at h
  · cases h
  · cases h
  · exact Path.not_mem_of_mem_splitAt h

/-- The entries of an installation in front of those that are inherited. -/
theorem any_contains_iff (i : Installation) (inherited : Option Octets) :
    (((ownEntries i).map Path.octets ++ inheritedEntries inherited).any
      (·.contains separator)) = true ↔ separator ∈ i.root.octets := by
  rw [← exists_mem_ownEntries_iff, List.any_append, Bool.or_eq_true, List.any_map]
  simp only [List.any_eq_true, Function.comp_apply, List.contains_iff_mem]
  exact or_iff_left fun ⟨_, mem, bad⟩ => not_mem_inheritedEntries mem bad

theorem ofTarget_of_mem {i : Installation} (inherited : Option Octets)
    (h : separator ∈ i.root.octets) : ofTarget i inherited = .error (.separator i.root) := by
  rw [ofTarget, if_pos ((any_contains_iff i inherited).2 h)]

theorem ofTarget_of_not_mem {i : Installation} (inherited : Option Octets)
    (h : separator ∉ i.root.octets) :
    ofTarget i inherited = .ok ⟨Path.joinWith separator
      ((ownEntries i).map Path.octets ++ inheritedEntries inherited), i.root, i.sitePackages⟩ := by
  rw [ofTarget, if_neg fun bad => h ((any_contains_iff i inherited).1 bad)]

end Plan

/-! ## What leaves the environment alone -/

/-- A failure for which the arguments are not to blame. -/
def Failure.IsInnocent (f : Failure) : Prop := ∀ fault, f ≠ .error (.configuration fault)

namespace Machine

theorem environment_tell (m : Machine) (level : Log.Level) (message : String) :
    (m.tell level message).environment = m.environment :=
  congrArg Settings.environment (m.settings_tell level message)

/-- The variables of a plan are set. -/
theorem installed_install (m : Machine) (plan : Plan) :
    (m.install plan).installed =
      [some plan.path, some plan.home.octets, some plan.packages.octets] := by
  have same (name : String) : (m.install plan).environment? name =
      (((m.setVariable "PATH" plan.path).setVariable "PYTHONHOME" plan.home.octets).setVariable
        "PYTHONPATH" plan.packages.octets).environment? name :=
    congrArg (List.lookup name) (environment_tell ..)
  have other {name other : String} (h : other ≠ name) := environment?_setVariable_of_ne (h := h)
  rw [installed, same, same, same, environment?_setVariable, other (by decide), other (by decide),
    environment?_setVariable, other (by decide), environment?_setVariable]

theorem settings_loadLibrary (m : Machine) (path : Path) :
    (m.loadLibrary path).2.settings = m.settings := by
  unfold loadLibrary
  split
  · rfl
  · dsimp only
    split <;> simp

theorem settings_locateLibrary (m : Machine) (i : Installation) :
    (m.locateLibrary i).2.settings = m.settings := by
  have told (paths : List Path) : (paths.foldl
      (fun m path => m.tell .debug ("Checking for library at: " ++ path.display)) m).settings =
        m.settings := by
    induction paths generalizing m with
    | nil => rfl
    | cons path paths ih => exact (ih _).trans (settings_tell ..)
  unfold locateLibrary
  dsimp only
  split
  · exact (settings_loadLibrary ..).trans (told _)
  · exact told _

end Machine

namespace Work

theorem keeps_ofMachine {α : Type} {f : Machine → Except HostError α × Machine}
    (h : ∀ m, (f m).2.settings = m.settings) : (ofMachine f).Keeps :=
  .step (fun s => h s.machine) fun _ => isClosed_keeps.ofExcept _

end Work

namespace Op

variable {α β : Type}

/-- The operation changes no environment variable, and its arguments are not to
blame if it fails. -/
structure IsHarmless (op : Op α) : Prop where
  environment (held : Bool) (p : Embedding) :
    (op.run held p).2.session.machine.environment = p.session.machine.environment
  innocent (held : Bool) (p : Embedding) : FailsOnly Failure.IsInnocent (op.run held p).1

theorem isHarmless_ends {r : Except Failure α} (h : FailsOnly Failure.IsInnocent r) :
    IsHarmless (.ends r) := ⟨fun _ _ => rfl, fun _ _ => h⟩

theorem isHarmless_pure (a : α) : IsHarmless (pure a) := isHarmless_ends (.ok a)

/-- A step that leaves the machine alone. -/
theorem isHarmless_step {change : Embedding → Embedding} {next : Embedding → Op α}
    (same : ∀ p, (change p).session = p.session) (rest : ∀ p, (next p).IsHarmless) :
    IsHarmless (.step change next) := by
  constructor
  · intro held p
    show (((next p).run held (change p)).2).session.machine.environment = _
    rw [(rest p).environment, same]
  · intro held p
    exact (rest p).innocent held (change p)

theorem IsHarmless.andThen {op : Op α} {k : Except Failure α → Op β} (first : op.IsHarmless)
    (second : ∀ r, FailsOnly Failure.IsInnocent r → IsHarmless (k r)) :
    IsHarmless (op.andThen k) := by
  constructor
  · intro held p
    rw [Activity.run_andThen]
    exact ((second _ (first.innocent held p)).environment held _).trans (first.environment held p)
  · intro held p
    rw [Activity.run_andThen]
    exact (second _ (first.innocent held p)).innocent held _

theorem IsHarmless.bind {op : Op α} {k : α → Op β} (first : op.IsHarmless)
    (second : ∀ a, (k a).IsHarmless) : (op >>= k).IsHarmless := by
  refine first.andThen fun r fails => ?_
  cases r with
  | ok a => exact second a
  | error f => exact isHarmless_ends (.error (fails f rfl))

theorem isHarmless_ofWork {w : Work α} (keeps : w.Keeps) (fails : w.Fails Failure.IsInnocent) :
    (ofWork w).IsHarmless := by
  constructor
  · intro held p
    rw [run_ofWork]
    exact congrArg Settings.environment (keeps.run_snd p.session)
  · intro held p
    rw [run_ofWork]
    exact fails.run p.session

theorem isHarmless_tell (level : Log.Level) (message : String) : (tell level message).IsHarmless :=
  isHarmless_ofWork (Work.isClosed_keeps.tell level message) (Work.fails_tell level message)

theorem isHarmless_machine : machine.IsHarmless :=
  isHarmless_step (fun _ => rfl) fun _ => isHarmless_pure _

theorem isHarmless_fail {e : HostError} (h : ∀ fault, e ≠ .configuration fault) :
    (fail e : Op α).IsHarmless :=
  isHarmless_ends (.error fun fault same => h fault (Failure.error.inj same))

theorem isHarmless_openLibrary (i : Installation) : (Op.openLibrary i).IsHarmless := by
  have located : (Op.ofMachine (·.locateLibrary i)).IsHarmless :=
    isHarmless_ofWork (Work.keeps_ofMachine fun m => m.settings_locateLibrary i)
      (Work.fails_ofMachine fun m e failed fault same => by
        obtain rfl := Failure.error.inj same
        rcases Host.locateLibrary_error_cases failed with ⟨_, _, other⟩ | ⟨_, other⟩
        · cases other
        · cases other)
  refine located.bind fun path => .bind ?_ fun number => isHarmless_pure _
  exact isHarmless_step (fun _ => rfl) fun _ => isHarmless_pure _

end Op

namespace Host

open Op

theorem isHarmless_engine : (ofWork .engine).IsHarmless :=
  isHarmless_ofWork Work.isClosed_keeps.engine Work.fails_engine

theorem isHarmless_elapsed : (ofWork .elapsed).IsHarmless :=
  isHarmless_ofWork Work.isClosed_keeps.elapsed Work.fails_elapsed

theorem isHarmless_record (i : Initialization) :
    (record (.error .alreadyInitialized) i).IsHarmless := by
  have unrecorded : IsHarmless (fail (.interpreterInit .notRecorded) : Op Unit) :=
    isHarmless_fail (by simp)
  have checked : IsHarmless (do
      if (← get).initialized.isNone then .fail (.interpreterInit .notRecorded) : Op Unit) := by
    refine isHarmless_step (fun _ => rfl) fun p => ?_
    show IsHarmless (if p.initialized.isNone then fail (.interpreterInit .notRecorded) else pure ())
    split
    · exact unrecorded
    · exact isHarmless_pure _
  have found : IsHarmless (.fails (.error .alreadyInitialized) : Op Unit) :=
    isHarmless_fail (by simp)
  refine isHarmless_step (fun _ => rfl) fun p => ?_
  show IsHarmless (if p.initialized.isSome then .fails (.error .alreadyInitialized) >>= fun _ => _
    else _)
  split
  · exact found.bind fun _ => checked
  · exact checked

theorem isHarmless_start (i : Installation) (library : Library) :
    (start (.error .alreadyInitialized) i library).IsHarmless := by
  have recorded := isHarmless_record ⟨i.version, library.path⟩
  have warned : IsHarmless (do
      if !i.version.covers Engine.series then
        .tell .warning
          ("Python version mismatch: requested " ++ i.version.text
            ++ ", but the interpreter reports " ++ Engine.series.text)
      record (.error .alreadyInitialized) ⟨i.version, library.path⟩) := by
    dsimp only
    split
    · exact (isHarmless_tell _ _).bind fun _ => recorded
    · exact recorded
  have failed : IsHarmless (fail (.interpreterInit .notReady) : Op Unit) :=
    isHarmless_fail (by simp)
  refine isHarmless_elapsed.bind fun elapsed => (isHarmless_tell _ _).bind fun _ =>
    isHarmless_engine.bind fun engine => ?_
  dsimp only
  split
  · exact failed.bind fun _ => warned
  · exact warned

theorem isHarmless_forwardLogging : (ofWork forwardLogging).IsHarmless := by
  refine isHarmless_ofWork ?_ fails_forwardLogging
  refine Work.Keeps.bind Work.isClosed_keeps.machine fun m => ?_
  dsimp only
  split
  · exact Work.isClosed_keeps.tell _ _
  · exact Work.Keeps.bind (Work.keeps_modify fun _ => rfl) fun _ => Work.isClosed_keeps.tell _ _

/-- What an attempt does after the environment is set. -/
def embedSet (already : Failure) (config : Config) (target : Installation) : Op Host := do
  let library ← .openLibrary target
  (start already target library).orClear (·.releaseLibrary library)
  let engine ← .ofWork .engine
  .tell .debug ("Interpreter ready: " ++ engine.banner)
  if config.forwardsLogging || (← Op.machine).log.forwards then .ofWork forwardLogging
  let elapsed ← .ofWork .elapsed
  .tell .debug ("Total host initialization took: " ++ elapsed)
  return ⟨target, config, some library⟩

theorem embed_eq (already : Failure) (config : Config) :
    embed already config = (do
      let target ← .ofExcept (targetOf config)
      .tell .info (announcement target)
      installEnvironment target
      embedSet already config target) := rfl

theorem isHarmless_embedSet (config : Config) (target : Installation) :
    (embedSet (.error .alreadyInitialized) config target).IsHarmless := by
  have told (h : Host) : IsHarmless (do
      let elapsed ← .ofWork .elapsed
      .tell .debug ("Total host initialization took: " ++ elapsed)
      return h) :=
    isHarmless_elapsed.bind fun _ => (isHarmless_tell _ _).bind fun _ => isHarmless_pure h
  have started (library : Library) : IsHarmless
      ((start (.error .alreadyInitialized) target library).orClear (·.releaseLibrary library)) := by
    refine (isHarmless_start target library).andThen fun r fails => ?_
    cases r with
    | ok _ => exact isHarmless_ends (.ok _)
    | error f =>
      exact isHarmless_step (fun _ => rfl) fun _ => isHarmless_ends (.error (fails f rfl))
  refine (isHarmless_openLibrary target).bind fun library => (started library).bind fun _ =>
    isHarmless_engine.bind fun engine => (isHarmless_tell _ _).bind fun _ =>
      isHarmless_machine.bind fun m => ?_
  dsimp only
  split
  · exact isHarmless_forwardLogging.bind fun _ => told _
  · exact told _

theorem run_construct_of_unset {config : Config} {p : Embedding} (unset : p.initialized = none) :
    (construct config).run false p = (embed (.error .alreadyInitialized) config).run true p := by
  obtain ⟨session, initialized, libraries⟩ := p
  obtain rfl : initialized = none := unset
  show (Activity.guarded .initialization _ .ends).run false _ = _
  rw [Op.run_guarded_of_free]
  rfl

theorem run_construct_of_error {config : Config} {e : HostError} {p : Embedding}
    (unset : p.initialized = none) (named : targetOf config = .error e) :
    (construct config).run false p = (.error (.error e), p) := by
  rw [run_construct_of_unset unset, embed_eq, named]
  rfl

/-- The process when an attempt tells of its installation. -/
def announced (p : Embedding) (target : Installation) : Embedding :=
  p.mapMachine (·.tell .info (announcement target))

theorem planFor_announced (p : Embedding) (target : Installation) :
    (announced p target).session.machine.planFor target = p.session.machine.planFor target :=
  Machine.planFor_tell ..

theorem run_installEnvironment_of_fault {target : Installation} {fault : ConfigurationFault}
    {p : Embedding} (planned : p.session.machine.planFor target = .error fault) (held : Bool) :
    (installEnvironment target).run held p = (.error (.error (.configuration fault)), p) := by
  show (Op.ofExcept ((p.session.machine.planFor target).mapError HostError.configuration) >>=
    fun plan => changeMachine (·.install plan)).run held p = _
  rw [planned]
  rfl

theorem run_installEnvironment {target : Installation} {plan : Plan} {p : Embedding}
    (planned : p.session.machine.planFor target = .ok plan) (held : Bool) :
    (installEnvironment target).run held p = (.ok (), p.mapMachine (·.install plan)) := by
  show (Op.ofExcept ((p.session.machine.planFor target).mapError HostError.configuration) >>=
    fun plan => changeMachine (·.install plan)).run held p = _
  rw [planned]
  rfl

section

variable {config : Config} {target : Installation} {p : Embedding}

/-- An attempt that knows its installation. -/
theorem run_construct_of_target (unset : p.initialized = none)
    (named : targetOf config = .ok target) :
    (construct config).run false p =
      (installEnvironment target >>= fun _ =>
        embedSet (.error .alreadyInitialized) config target).run true (announced p target) := by
  have told : (tell .info (announcement target)).run true p = (.ok (), announced p target) := rfl
  rw [run_construct_of_unset unset, embed_eq, named]
  exact (Activity.run_bind_ok rfl).trans (Activity.run_bind_ok told)

theorem run_construct_of_fault {fault : ConfigurationFault} (unset : p.initialized = none)
    (named : targetOf config = .ok target)
    (planned : p.session.machine.planFor target = .error fault) :
    (construct config).run false p =
      (.error (.error (.configuration fault)), announced p target) := by
  rw [← planFor_announced] at planned
  rw [run_construct_of_target unset named, Activity.run_bind,
    run_installEnvironment_of_fault planned]

/-- Whatever comes of an attempt, it sets the environment first. -/
theorem run_construct_of_plan {plan : Plan} (unset : p.initialized = none)
    (named : targetOf config = .ok target)
    (planned : p.session.machine.planFor target = .ok plan) :
    (construct config).run false p =
      (embedSet (.error .alreadyInitialized) config target).run true
        ((announced p target).mapMachine (·.install plan)) := by
  rw [← planFor_announced] at planned
  rw [run_construct_of_target unset named]
  exact Activity.run_bind_ok (run_installEnvironment planned true)

end

end Host

/-! ## Attempts one after another -/

/-- An attempt by a thread that holds the lock already or does not. -/
structure Attempt where
  held : Bool
  config : Config

/-- The entries that an installation has in front of the inherited ones. -/
def Installation.entries (i : Installation) : List Octets :=
  [i.root, i.root / "bin", i.root / "lib" / ("python" ++ i.version.text) / "site-packages"].map
    Path.octets

/-- Only a root with the separator has entries with it. -/
theorem Installation.not_mem_entries {i : Installation} (plain : Plan.separator ∉ i.root.octets)
    {entry : Octets} (h : entry ∈ i.entries) : Plan.separator ∉ entry := by
  obtain ⟨own, mem, rfl⟩ := List.mem_map.1 h
  exact fun bad => plain ((Plan.exists_mem_ownEntries_iff i).1 ⟨own, mem, bad⟩)

/-- The entries of an installation and whatever is behind them are inherited as they
are. -/
theorem Plan.inheritedEntries_joinWith (i : Installation) {behind : List Octets}
    (plain : ∀ entry ∈ i.entries ++ behind, separator ∉ entry) :
    inheritedEntries (some (Path.joinWith separator (i.entries ++ behind))) =
      i.entries ++ behind := by
  have cut : Path.splitAt separator (Path.joinWith separator (i.entries ++ behind)) =
      i.entries ++ behind := Path.splitAt_joinWith (List.cons_ne_nil _ _) plain
  cases path : Path.joinWith separator (i.entries ++ behind) with
  | nil =>
    rw [path] at cut
    cases (List.cons.inj cut).2
  | cons b path' =>
    rw [path] at cut
    exact cut

namespace Attempt

/-- The process after an attempt. -/
def after (a : Attempt) (p : Embedding) : Embedding :=
  ((Host.construct a.config).run a.held p).2

/-- The installation whose environment an attempt sets, if there is one. -/
def effective? (a : Attempt) (p : Embedding) : Option Installation := do
  if a.held || p.initialized.isSome then none
  let target ← (Host.targetOf a.config).toOption
  if target.root.octets.contains Plan.separator then none else some target

variable {a : Attempt} {p : Embedding}

theorem effective?_eq_some_iff {i : Installation} :
    a.effective? p = some i ↔ a.held = false ∧ p.initialized = none ∧
      Host.targetOf a.config = .ok i ∧ Plan.separator ∉ i.root.octets := by
  unfold effective?
  cases Host.targetOf a.config with
  | error e => simp [Except.toOption]
  | ok target =>
    cases a.held <;> cases p.initialized <;> simp [Except.toOption]
    constructor
    · rintro ⟨plain, rfl⟩
      exact ⟨rfl, plain⟩
    · rintro ⟨rfl, plain⟩
      exact ⟨plain, rfl⟩

/-- An attempt that is not effective leaves all variables as they are. -/
theorem environment_of_ineffective (h : a.effective? p = none) :
    (a.after p).session.machine.environment = p.session.machine.environment := by
  obtain ⟨held, config⟩ := a
  cases held with
  | true => rfl
  | false =>
    cases unset : p.initialized with
    | some i =>
      obtain ⟨session, initialized, libraries⟩ := p
      obtain rfl : initialized = some i := unset
      rfl
    | none =>
      cases named : Host.targetOf config with
      | error e =>
        rw [after, Host.run_construct_of_error unset named]
      | ok target =>
        have bad : Plan.separator ∈ target.root.octets :=
          Decidable.byContradiction fun plain => by
            rw [effective?_eq_some_iff.2 ⟨rfl, unset, named, plain⟩] at h
            cases h
        have planned : p.session.machine.planFor target = .error (.separator target.root) :=
          Plan.ofTarget_of_mem _ bad
        rw [after, Host.run_construct_of_fault unset named planned]
        exact Machine.environment_tell ..

theorem installed_of_effective {i : Installation} (h : a.effective? p = some i) :
    (a.after p).session.machine.installed =
      [some (Path.joinWith Plan.separator
          (i.entries ++ Plan.inheritedEntries (p.session.machine.environment? "PATH"))),
        some i.root.octets, some i.sitePackages.octets] := by
  obtain ⟨held, config⟩ := a
  obtain ⟨rfl, unset, named, plain⟩ := effective?_eq_some_iff.1 h
  have planned := Plan.ofTarget_of_not_mem (p.session.machine.environment? "PATH") plain
  have kept (q : Embedding) : ((Host.embedSet (.error .alreadyInitialized) config i).run true
      q).2.session.machine.installed = q.session.machine.installed := by
    unfold Machine.installed Machine.environment?
    rw [(Host.isHarmless_embedSet config i).environment]
  rw [after, Host.run_construct_of_plan unset named planned, kept]
  exact Machine.installed_install ..

/-- What an effective attempt leaves for the next one. -/
theorem inheritedEntries_of_effective {i : Installation} (h : a.effective? p = some i) :
    Plan.inheritedEntries ((a.after p).session.machine.environment? "PATH") =
      i.entries ++ Plan.inheritedEntries (p.session.machine.environment? "PATH") := by
  have path := (List.cons.inj (installed_of_effective h)).1
  rw [path]
  refine Plan.inheritedEntries_joinWith i fun entry mem => ?_
  rcases List.mem_append.1 mem with mem | mem
  · exact i.not_mem_entries (effective?_eq_some_iff.1 h).2.2.2 mem
  · exact Plan.not_mem_inheritedEntries mem

end Attempt

namespace Attempts

/-- The process after attempts. -/
def after : List Attempt → Embedding → Embedding
  | [], p => p
  | a :: as, p => after as (a.after p)

/-- The installations whose environment attempts set, one after another. -/
def effective : List Attempt → Embedding → List Installation
  | [], _ => []
  | a :: as, p => (a.effective? p).toList ++ effective as (a.after p)

variable {as : List Attempt} {p : Embedding}

theorem not_mem_root_of_mem_effective {i : Installation} (h : i ∈ effective as p) :
    Plan.separator ∉ i.root.octets := by
  induction as generalizing p with
  | nil => cases h
  | cons a as ih =>
    rcases List.mem_append.1 h with h | h
    · exact (Attempt.effective?_eq_some_iff.1 (Option.mem_toList.1 h)).2.2.2
    · exact ih h

theorem environment_after (none : effective as p = []) :
    (after as p).session.machine.environment = p.session.machine.environment := by
  induction as generalizing p with
  | nil => rfl
  | cons a as ih =>
    obtain ⟨first, others⟩ := List.append_eq_nil_iff.1 none
    exact (ih others).trans (Attempt.environment_of_ineffective (Option.toList_eq_nil_iff.1 first))

/-- The entries that attempts put in front of the inherited ones. -/
def entries (as : List Attempt) (p : Embedding) : List Octets :=
  (effective as p).reverse.flatMap Installation.entries ++
    Plan.inheritedEntries (p.session.machine.environment? "PATH")

theorem entries_cons (a : Attempt) (as : List Attempt) (p : Embedding) :
    entries (a :: as) p = entries as (a.after p) := by
  unfold entries
  rw [effective]
  cases found : a.effective? p with
  | none =>
    have same : (a.after p).session.machine.environment? "PATH" =
        p.session.machine.environment? "PATH" :=
      congrArg (List.lookup "PATH") (Attempt.environment_of_ineffective found)
    rw [same]
    rfl
  | some i =>
    rw [Attempt.inheritedEntries_of_effective found]
    simp

/-- The entries are what their list is cut into. -/
theorem splitAt_joinWith_entries (nonempty : effective as p ≠ []) :
    Path.splitAt Plan.separator (Path.joinWith Plan.separator (entries as p)) = entries as p := by
  refine Path.splitAt_joinWith ?_ fun entry mem => ?_
  · obtain ⟨i, mem⟩ := List.exists_mem_of_ne_nil _ nonempty
    have there : i.root.octets ∈ entries as p := List.mem_append_left _ <|
      List.mem_flatMap.2 ⟨i, List.mem_reverse.2 mem, List.mem_cons_self⟩
    exact List.ne_nil_of_mem there
  · rcases List.mem_append.1 mem with mem | mem
    · obtain ⟨i, there, mem⟩ := List.mem_flatMap.1 mem
      exact i.not_mem_entries (not_mem_root_of_mem_effective (List.mem_reverse.1 there)) mem
    · exact Plan.not_mem_inheritedEntries mem

/-- The variables are those of the last effective attempt. -/
theorem installed_after {last : Installation} (h : (effective as p).getLast? = some last) :
    (after as p).session.machine.installed =
      [some (Path.joinWith Plan.separator (entries as p)), some last.root.octets,
        some last.sitePackages.octets] := by
  induction as generalizing p with
  | nil => cases h
  | cons a as ih =>
    rw [effective, List.getLast?_append] at h
    rw [entries_cons]
    cases others : (effective as (a.after p)).getLast? with
    | some other =>
      rw [others] at h
      obtain rfl : other = last := Option.some.inj h
      exact ih others
    | none =>
      rw [others] at h
      have nothing : effective as (a.after p) = [] := List.getLast?_eq_none_iff.1 others
      have found : a.effective? p = some last := by
        cases found : a.effective? p with
        | none => rw [found] at h; cases h
        | some i => rw [found] at h; exact h
      have same : (after as (a.after p)).session.machine.installed =
          (a.after p).session.machine.installed := by
        unfold Machine.installed Machine.environment?
        rw [environment_after nothing]
      rw [after, same, Attempt.installed_of_effective found, entries, nothing,
        Attempt.inheritedEntries_of_effective found]
      rfl

end Attempts

/-- What is promised of the environment. -/
structure EnvironmentAccounts : Prop where
  /-- After some effective attempts the search path is cut into the entries of their
  installations, from the last one to the first one, and those that were there at
  first.  The other variables are those of the last one. -/
  sum : ∀ (as : List Attempt) (p : Embedding) (last : Installation),
    (Attempts.effective as p).getLast? = some last →
      ∃ path, (Attempts.after as p).session.machine.installed =
          [some path, some last.root.octets, some last.sitePackages.octets] ∧
        Path.splitAt Plan.separator path =
          (Attempts.effective as p).reverse.flatMap Installation.entries ++
            Plan.inheritedEntries (p.session.machine.environment? "PATH")
  /-- An attempt that is not effective changes no variable. -/
  spared : ∀ (a : Attempt) (p : Embedding), a.effective? p = none →
    (a.after p).session.machine.installed = p.session.machine.installed
  /-- An attempt that knows its installation, and finds neither the lock taken nor
  an interpreter, is turned down just if the root has the separator in it. -/
  rejected : ∀ (config : Config) (target : Installation) (p : Embedding),
    p.initialized = none → Host.targetOf config = .ok target →
      (((Host.construct config).run false p).1 =
          .error (.error (.configuration (.separator target.root))) ↔
        Plan.separator ∈ target.root.octets)

/-- The environment is the sum of what attempts did to it, whatever became of them. -/
theorem environment_accounts : EnvironmentAccounts where
  sum as p last h := by
    refine ⟨_, Attempts.installed_after h, ?_⟩
    refine Attempts.splitAt_joinWith_entries fun nothing => ?_
    rw [nothing] at h
    cases h
  spared a p h := by
    unfold Machine.installed Machine.environment?
    rw [Attempt.environment_of_ineffective h]
  rejected config target p unset named := by
    constructor
    · intro failed
      refine Decidable.byContradiction fun plain => ?_
      have planned := Plan.ofTarget_of_not_mem (p.session.machine.environment? "PATH") plain
      rw [Host.run_construct_of_plan unset named planned] at failed
      exact (Host.isHarmless_embedSet config target).innocent true _ _ failed _ rfl
    · intro bad
      have planned := Plan.ofTarget_of_mem (p.session.machine.environment? "PATH") bad
      rw [Host.run_construct_of_fault unset named planned]

/-- Two roots without a library, and one between them that cannot be an entry. -/
example :
    let attempt (root : String) : Attempt := ⟨false, .ofRoot (Path.ofText root) (some "3.12")⟩
    let p := Embedding.start
      ⟨⟨[], []⟩, [("PATH", Octets.ofText "/usr/bin:")], Log.initial, "", ⟨"", "", 0⟩⟩ ""
    (Attempts.after [attempt "/a", attempt "/b:", attempt "c/"] p).session.machine.installed =
      ["c/:c/bin:c/lib/python3.12/site-packages:/a:/a/bin:/a/lib/python3.12/site-packages:" ++
          "/usr/bin:",
        "c/", "c/lib/python3.12/site-packages"].map (some ∘ Octets.ofText) := by
  decide +kernel

end EmbeddedPython
