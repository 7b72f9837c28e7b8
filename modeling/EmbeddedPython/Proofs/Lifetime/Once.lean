import EmbeddedPython.Proofs.Lifetime.Conduct
import EmbeddedPython.Proofs.Lifetime.Places
import EmbeddedPython.Proofs.Lifetime.Success

/-!
# The interpreter is initialized once

Clients share an embedding, each in a thread of its own.  `Going` ties the tasks
of the threads to stages of the protocol, and `Going.step` is that every step of
a thread is a step of its stage.  From there `Threads.InitializedOnce` follows by
`Together`, and by following the stage of one thread through its attempt.
-/

namespace EmbeddedPython

variable {ι : Type} [DecidableEq ι]

namespace Stage

variable {g g' : Stage} {w w' : World} {e : Event} {first : Option Initialization}

/-- What initialized the interpreter when the attempt that a thread is in
started. -/
def Since (first : Option Initialization) : Stage → World → Prop
  | recorded _, _ => first = none
  | _, w => w.initialized = first

theorem Since.congr (h : g.Since first w) (same : w'.initialized = w.initialized) :
    g.Since first w' := by
  cases g with
  | recorded number => exact h
  | _ => exact same.trans h

theorem Does.since (h : g.Does w w' g') (since : g.Since first w) : g'.Since first w' := by
  cases h with
  | works _ same => exact since.congr same
  | records unset => exact (show w.initialized = first from since).symm.trans unset
  | _ => exact since

theorem Passes.enters (h : g.Passes (.enters .initialization) w w' g') :
    g' = checking ∧ w' = w := by
  cases h
  exact ⟨rfl, rfl⟩

/-- Within an attempt there are silent steps and the end. -/
theorem Passes.of_attempt (h : g.Passes e w w' g') (attempting : ¬g.Between) :
    (e = .silent ∧ g.Does w w' g') ∨ ∃ failure, e = .leaves .initialization failure := by
  cases h with
  | silent does => exact .inl ⟨rfl, does⟩
  | succeeds | fails | findsAnother => exact .inr ⟨_, rfl⟩
  | releases between => exact (attempting between).elim
  | _ => exact (attempting trivial).elim

/-- Only attempts initialize the interpreter. -/
theorem Passes.initialized (h : g.Passes e w w' g') :
    w'.initialized = w.initialized ∨
      ¬g.Between ∧ w.initialized = none ∧ w'.initialized.isSome := by
  rcases h.counted with ⟨-, same, -⟩ | ⟨-, number, rfl, -, set⟩ | ⟨-, rfl, -⟩
  · exact .inl same
  · exact .inr ⟨id, set⟩
  · exact .inl rfl

end Stage

/-! ## Threads with their stages -/

/-- Threads that have come to stages after so many successes. -/
structure Going (stages : ι → Stage) (c : Threads ι World Unit) (n : Nat) : Prop where
  kept : c.Kept
  placed : ∀ i, Placed c.shared (stages i) (c.tasks i)
  together : Together stages c.shared n

namespace Going

open Threads

variable {stages : ι → Stage} {c d : Threads ι World Unit} {n : Nat} {i j : ι} {e : Event}

/-- While a thread is in an attempt, no other one is. -/
theorem alone (h : Going stages c n) (attempting : ¬(stages i).Between) (other : j ≠ i) :
    (stages j).Between := by
  by_contra also
  obtain ⟨_, _, hi⟩ := (h.placed i).attempt attempting
  obtain ⟨_, _, hj⟩ := (h.placed j).attempt also
  refine other (h.kept.disciplined.one_inside j i ?_ ?_)
  · rw [hj]
    trivial
  · rw [hi]
    trivial

/-- Every step of a thread is one between its stages. -/
theorem step (h : Going stages c n) (step : c.step i = some (e, d)) :
    ∃ g, (stages i).Passes e c.shared d.shared g ∧
      Going (Function.update stages i g) d (n + e.succeeds.toNat) := by
  have moves := moves_of_step h.kept step
  obtain ⟨g, passes, placed⟩ :=
    moves.passes (h.placed i) (h.together.fits i) h.together.sound
  have together := h.together.pass passes fun attempting j other => h.alone attempting other
  refine ⟨g, passes, moves.kept h.kept, fun j => ?_, together⟩
  by_cases other : j = i
  · subst other
    rwa [Function.update_self]
  · rw [Function.update_of_ne other, tasks_of_step other step]
    refine (h.placed j).mono fun ready => ?_
    rcases passes.initialized with same | ⟨-, -, set⟩
    · rwa [same]
    · exact set

theorem runs (h : Going stages c n) {es : List (ι × Event)} (runs : Runs c es d) :
    ∃ stages', Going stages' d (n + successes es) := by
  induction runs with
  | refl => exact ⟨stages, h⟩
  | @step d d' es i e _ last ih =>
    obtain ⟨stages', going⟩ := ih
    obtain ⟨g, -, after⟩ := going.step last
    refine ⟨Function.update stages' i g, ?_⟩
    rw [successes_concat, ← Nat.add_assoc]
    exact after

end Going

/-! ## Attempts -/

namespace Threads

/-- A thread is in an attempt that took the lock at `c`. -/
def Attempting (i : ι) (c d : Threads ι World Unit) : Prop :=
  ∃ c' es, c.step i = some (.enters .initialization, c') ∧ Runs c' es d ∧
    ∀ purpose failure, (i, .leaves purpose failure) ∉ es

end Threads

namespace Going

open Threads

variable {stages : ι → Stage} {c d d' : Threads ι World Unit} {n : Nat} {i : ι} {e : Event}

/-- The stage of a thread as long as its attempt goes on. -/
theorem within (h : Going stages c n) {first : Option Initialization}
    (attempting : ¬(stages i).Between) (since : (stages i).Since first c.shared)
    {es : List (ι × Event)} (runs : Runs c es d)
    (goesOn : ∀ purpose failure, (i, .leaves purpose failure) ∉ es) :
    ∃ stages' n', Going stages' d n' ∧ ¬(stages' i).Between ∧
      (stages' i).Since first d.shared := by
  induction runs with
  | refl => exact ⟨stages, n, h, attempting, since⟩
  | @step d d' es j e _ last ih =>
    obtain ⟨stages', n', going, attempting, since⟩ :=
      ih fun purpose failure mem => goesOn purpose failure (List.mem_append_left _ mem)
    obtain ⟨g, passes, after⟩ := going.step last
    refine ⟨_, _, after, ?_⟩
    by_cases other : i = j
    · subst other
      rw [Function.update_self]
      rcases passes.of_attempt attempting with ⟨-, does⟩ | ⟨failure, rfl⟩
      · exact ⟨mt does.between_iff.mpr attempting, does.since since⟩
      · exact (goesOn _ _ (List.mem_append_right _ List.mem_cons_self)).elim
    · -- Another thread is in no attempt, so it does not initialize anything.
      have between := going.alone attempting (Ne.symm other)
      rw [Function.update_of_ne other]
      rcases passes.initialized with same | ⟨also, -⟩
      · exact ⟨attempting, since.congr same⟩
      · exact (also between).elim

/-- The stage of a thread in an attempt, with what initialized the interpreter
before it. -/
theorem attempting (h : Going stages c n) (attempt : Attempting i c d) :
    ∃ stages' n', Going stages' d n' ∧ ¬(stages' i).Between ∧
      (stages' i).Since c.shared.initialized d.shared := by
  obtain ⟨c', es, enters, runs, goesOn⟩ := attempt
  obtain ⟨g, passes, going⟩ := h.step enters
  obtain ⟨rfl, same⟩ := passes.enters
  refine going.within ?_ ?_ runs goesOn
  · rw [Function.update_self]
    exact id
  · rw [Function.update_self, same]
    rfl

/-- An attempt that is a success initialized the interpreter. -/
theorem succeeds (h : Going stages c n) (attempt : Attempting i c d)
    (ends : d.step i = some (.leaves .initialization none, d')) :
    c.shared.initialized = none ∧ d'.shared.initialized.isSome := by
  obtain ⟨stages', n', going, -, since⟩ := h.attempting attempt
  obtain ⟨g, passes, after⟩ := going.step ends
  have fits := going.together.fits i
  generalize stages' i = stage, d.shared = w, d'.shared = w' at passes since fits ⊢
  cases passes with
  | succeeds => exact ⟨since, fits⟩

/-- An attempt that fails did not initialize the interpreter. -/
theorem fails (h : Going stages c n) (attempt : Attempting i c d) {f : Failure}
    (ends : d.step i = some (.leaves .initialization (some f), d')) :
    d'.shared.initialized = c.shared.initialized ∧
      (c.shared.initialized = none ∧ f.IsPlain ∨
        c.shared.initialized.isSome ∧ f = .error .alreadyInitialized) := by
  obtain ⟨stages', n', going, -, since⟩ := h.attempting attempt
  obtain ⟨g, passes, after⟩ := going.step ends
  have fits := going.together.fits i
  generalize stages' i = stage, d.shared = w, d'.shared = w' at passes since fits ⊢
  cases passes with
  | fails plain => exact ⟨since, .inl ⟨since.symm.trans fits, plain⟩⟩
  | findsAnother =>
    have same : w.initialized = c.shared.initialized := since
    exact ⟨same, .inr ⟨same ▸ fits, rfl⟩⟩

/-- An attempt that finds an interpreter changes nothing. -/
theorem changes_nothing (h : Going stages c n) (attempt : Attempting i c d)
    (ready : c.shared.initialized.isSome) (step : d.step i = some (e, d')) :
    d'.shared = d.shared := by
  obtain ⟨stages', n', going, attempting, since⟩ := h.attempting attempt
  obtain ⟨g, passes, after⟩ := going.step step
  have fits := going.together.fits i
  have found {w : World} (same : w.initialized = c.shared.initialized) :
      w.initialized ≠ none := by
    rw [same]
    exact Option.isSome_iff_ne_none.mp ready
  generalize stages' i = stage, d.shared = w, d'.shared = w' at passes since fits attempting ⊢
  cases passes with
  | silent does =>
    cases does with
    | idle | findsReady | findsNone => rfl
    | works allowed =>
      cases g with
      | checking | refused => exact allowed.elim
      | unset | opened => exact (found since fits).elim
      | recorded =>
        rw [show c.shared.initialized = none from since] at ready
        cases ready
      | _ => exact (attempting trivial).elim
    | opens | records | clears => exact (found since fits).elim
    | _ => exact (attempting trivial).elim
  | _ => rfl

/-- What initialized the interpreter stays the same. -/
theorem fixed (h : Going stages c n) {first : Initialization}
    (set : c.shared.initialized = some first) {es : List (ι × Event)} (runs : Runs c es d) :
    d.shared.initialized = some first := by
  induction runs with
  | refl => exact set
  | step runs last ih =>
    obtain ⟨_, going⟩ := h.runs runs
    obtain ⟨g, passes, -⟩ := going.step last
    rcases passes.initialized with same | ⟨-, unset, -⟩
    · exact same.trans ih
    · rw [ih] at unset
      cases unset

omit [DecidableEq ι] in
/-- Threads that have come to their ends have no library in hand. -/
theorem settled (h : Going stages c n) (ended : ∀ i, ∃ r, c.tasks i = .doing (.ends r)) :
    c.shared.settled.Perm (List.range c.shared.libraries.opened) := by
  refine h.together.ledger.perm_range fun i => ?_
  obtain ⟨r, task⟩ := ended i
  have placed := h.placed i
  rw [task] at placed
  generalize stages i = stage at placed ⊢
  cases placed with
  | doing between obeys =>
    cases obeys with
    | ends post =>
      obtain ⟨ready, rfl⟩ := post
      rfl

omit [DecidableEq ι] in
/-- Whoever uses the interpreter finds it initialized. -/
theorem ready (h : Going stages c n) {β : Type} {body : Task World β}
    {next : Except Failure β → Activity World Unit} (task : c.tasks i = .inside .use body next) :
    c.shared.initialized.isSome := by
  have placed := h.placed i
  rw [task] at placed
  generalize stages i = stage at placed
  cases placed with
  | running between ready inside after => exact ready

/-- An attempt that nothing stands against is a success when it is left alone. -/
theorem possible (h : Going stages c n) {already : Failure} {config : Config}
    {next : Except Failure Unit → Client}
    (task : c.tasks i = .doing ((Client.construct config next).activity already))
    (free : c.owner = none) (unset : c.shared.initialized = none)
    (embeds : Host.Embeds config c.shared.embedding) :
    ∃ es d, Runs c es d ∧ (i, .leaves .initialization none) ∈ es ∧
      d.shared.initialized.isSome := by
  obtain ⟨host, p, run, set⟩ := Host.leads_attempt (p := c.shared.embedding) already embeds unset
  let body := (Host.attempt already config).on World.inEmbedding
  rw [Client.activity] at task
  obtain ⟨k, task⟩ : ∃ k, c.tasks i = .doing (.guarded .initialization body k) := ⟨_, task⟩
  have marked : c.marked i = false := by
    have kept := h.kept i
    rw [task] at kept
    exact kept.1
  have before : c.set i (.doing (.guarded .initialization body k)) ⟨false, none, c.shared⟩ = c := by
    have same := c.set_self i
    rwa [task, view, marked, free] at same
  obtain ⟨es, runs, ends⟩ := runs_guarded .initialization body k c i c.shared
  rw [before] at runs
  have ran := Activity.run_on World.inEmbedding (Host.attempt already config) true c.shared
  rw [show World.inEmbedding.get c.shared = c.shared.embedding from rfl, run] at ran
  rw [ran] at runs ends
  exact ⟨es, _, runs, ends, set⟩

omit [DecidableEq ι] in
theorem start (already : Failure) (clients : ι → Client) {p : Embedding}
    (unset : p.initialized = none) (unopened : p.libraries = ⟨0, []⟩) :
    Going (fun _ => .free false) (start (fun i => (clients i).activity already) ⟨p, []⟩) 0 where
  kept := kept_start _ _
  placed i := .doing trivial (Client.obeys already (clients i) false)
  together :=
    { fits := fun _ h => nomatch h
      sound := fun _ mem => nomatch mem
      ledger := by
        show Ledger p.libraries.opened (p.libraries.released ++ []) fun _ => none
        rw [unopened]
        exact
          { nodup := List.nodup_nil
            one_hand := fun _ _ _ h => nomatch h
            in_hand := fun _ _ h => nomatch h
            all := fun k => by simp }
      pending := fun _ _ h => nomatch h
      done := fun _ => by
        show 0 = p.initialized.isSome.toNat
        rw [unset]
        rfl }

end Going

/-! ## The promise -/

namespace Threads

/-- What is promised of the initialization of the interpreter at every moment of a
run, after threads did `es`. -/
structure InitializedOnce (already : Failure) (es : List (ι × Event))
    (c : Threads ι World Unit) : Prop where
  /-- At most one attempt was a success. -/
  one_success : successes es ≤ 1
  /-- Only an attempt initializes the interpreter. -/
  set_by_attempt : ∀ i e d, c.step i = some (e, d) →
    d.shared.initialized ≠ c.shared.initialized →
    c.shared.initialized = none ∧ d.shared.initialized.isSome ∧
      ∃ (body : Activity World Host) (next : Except Failure Host → Activity World Unit),
        c.tasks i = .inside .initialization (.doing body) next
  /-- It stays initialized by the same. -/
  fixed : ∀ first fs d, c.shared.initialized = some first → Runs c fs d →
    d.shared.initialized = some first
  /-- An attempt that is a success initialized the interpreter. -/
  success_sets : ∀ i d d', Attempting i c d →
    d.step i = some (.leaves .initialization none, d') →
    c.shared.initialized = none ∧ d'.shared.initialized.isSome
  /-- An attempt that fails before that leaves the interpreter as it was, and its
  failure tells of no other one. -/
  failure_unset : ∀ i d f d', Attempting i c d → c.shared.initialized = none →
    d.step i = some (.leaves .initialization (some f), d') →
    d'.shared.initialized = none ∧ f.IsPlain
  /-- Later attempts are refused. -/
  later_refused : ∀ i d failure d', Attempting i c d → c.shared.initialized.isSome →
    d.step i = some (.leaves .initialization failure, d') →
    failure = some (.error .alreadyInitialized)
  /-- None of their steps changes anything. -/
  later_silent : ∀ i d e d', Attempting i c d → c.shared.initialized.isSome →
    d.step i = some (e, d') → d'.shared = d.shared
  /-- The interpreter is used when it is initialized. -/
  use_ready : ∀ i (β : Type) (body : Task World β)
    (next : Except Failure β → Activity World Unit), c.tasks i = .inside .use body next →
    c.shared.initialized.isSome
  /-- No library is given back twice, or while its host is open. -/
  released_once : c.shared.settled.Nodup
  /-- In the end every library was given back, unless its host is open. -/
  all_released : (∀ i, ∃ r, c.tasks i = .doing (.ends r)) →
    c.shared.settled.Perm (List.range c.shared.libraries.opened)
  /-- As long as no attempt was a success, one can be. -/
  still_possible : ∀ i config next,
    c.tasks i = .doing ((Client.construct config next).activity already) → c.owner = none →
    c.shared.initialized = none → Host.Embeds config c.shared.embedding →
    ∃ fs d, Runs c fs d ∧ (i, .leaves .initialization none) ∈ fs ∧ d.shared.initialized.isSome

end Threads

/-- Under the invariant, initialization is as it is promised. -/
theorem Going.initializedOnce {stages : ι → Stage} {c : Threads ι World Unit}
    {es : List (ι × Event)} (h : Going stages c (successes es)) (already : Failure) :
    Threads.InitializedOnce already es c where
  one_success := h.together.le_one
  set_by_attempt i e d step changed := by
    obtain ⟨g, passes, -⟩ := h.step step
    rcases passes.initialized with same | ⟨attempting, unset, set⟩
    · exact (changed same).elim
    · exact ⟨unset, set, (h.placed i).attempt attempting⟩
  fixed first fs d set runs := h.fixed set runs
  success_sets i d d' attempt ends := h.succeeds attempt ends
  failure_unset i d f d' attempt unset ends := by
    obtain ⟨same, ⟨-, plain⟩ | ⟨set, -⟩⟩ := h.fails attempt ends
    · exact ⟨same.trans unset, plain⟩
    · rw [unset] at set
      cases set
  later_refused i d failure d' attempt ready ends := by
    cases failure with
    | none =>
      rw [(h.succeeds attempt ends).1] at ready
      cases ready
    | some f =>
      obtain ⟨-, ⟨unset, -⟩ | ⟨-, same⟩⟩ := h.fails attempt ends
      · rw [unset] at ready
        cases ready
      · rw [same]
  later_silent i d e d' attempt ready step := h.changes_nothing attempt ready step
  use_ready i β body next task := h.ready task
  released_once := h.together.ledger.nodup
  all_released ended := h.settled ended
  still_possible i config next task free unset embeds := h.possible task free unset embeds

namespace Threads

/-- However many clients there are, whatever each of them does, and in whatever
order they take their steps, the interpreter is initialized at most once.
Nothing hangs on the failure `already` that an attempt ends in if recording finds
an interpreter: attempts that were not refused end in other failures only. -/
theorem initialized_once (already : Failure) (clients : ι → Client) (p : Embedding)
    (unset : p.initialized = none) (unopened : p.libraries = ⟨0, []⟩) (es : List (ι × Event))
    (c : Threads ι World Unit)
    (runs : Runs (start (fun i => (clients i).activity already) ⟨p, []⟩) es c) :
    InitializedOnce already es c := by
  obtain ⟨stages, going⟩ := (Going.start already clients unset unopened).runs runs
  rw [Nat.zero_add] at going
  exact going.initializedOnce already

end Threads

/-! ## Two clients that both try -/

namespace Rivals

/-- An installation with a library. -/
def files : FileSystem :=
  ⟨[([Octets.ofText "py", Octets.ofText "libpython3.12.so"], .file ⟨.library, false⟩),
    ([Octets.ofText "py"], .directory)], []⟩

def process : Embedding := .start ⟨files, [], Log.initial, "", ⟨"", "", 0⟩⟩ ""

/-- Whoever makes a host closes it. -/
def client : Client :=
  .construct (.ofRoot ⟨Octets.ofText "/py"⟩ (some "3.12")) fun _ => .close 0 .stop

def threads : Threads Bool World Unit :=
  .start (fun _ => client.activity (.error .alreadyInitialized)) ⟨process, []⟩

/-- One client asks for the lock first, but the other one takes it. -/
def order : List Bool :=
  [false] ++ List.replicate 26 true ++ List.replicate 6 false

end Rivals

/-- One of two clients makes a host and closes it, and the other one is refused
after that. -/
theorem Threads.initialized_once_of_rivals :
    ∃ es c, Runs Rivals.threads es c ∧ successes es = 1 ∧ c.shared.libraries = ⟨1, [0]⟩ ∧
      (false, .leaves .initialization (some (.error .alreadyInitialized))) ∈ es ∧
      InitializedOnce (.error .alreadyInitialized) es c := by
  have followed : ((Rivals.threads.follow Rivals.order).map fun (es, c) =>
      (successes es, c.shared.libraries,
        es.elem (false, .leaves .initialization (some (.error .alreadyInitialized))))) =
      some (1, ⟨1, [0]⟩, true) := by decide +kernel
  obtain ⟨⟨es, c⟩, run, seen⟩ := Option.map_eq_some_iff.mp followed
  obtain ⟨once, seen⟩ := Prod.mk.inj seen
  obtain ⟨released, refused⟩ := Prod.mk.inj seen
  have runs := runs_of_follow Rivals.order run
  exact ⟨es, c, runs, once, released, List.elem_iff.mp refused,
    initialized_once _ (fun _ => Rivals.client) Rivals.process rfl rfl es c runs⟩

end EmbeddedPython
