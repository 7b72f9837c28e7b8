import EmbeddedPython.Proofs.Lifetime.Stages
import EmbeddedPython.Proofs.Threads.Discipline

/-!
# Places of threads

A `Placed` thread is at a stage that belongs to where it is: what is left of its
activity keeps to the protocol from that stage on.  `Threads.Moves.passes` says
that every step of such a thread is a step between stages, and that the thread is
in its place after it.
-/

namespace EmbeddedPython

variable {ι : Type} [DecidableEq ι]

/-- What comes after an attempt keeps to the protocol. -/
structure AfterAttempt (next : Except Failure Host → Activity World Unit) : Prop where
  ok : ∀ h library, h.library = some library →
    Obeys (.holding library.number) (next (.ok h)) Over
  failed : ∀ f, Obeys (.free false) (next (.error f)) Over

/-- The stages that a thread may be at when it is somewhere in an activity. -/
inductive Placed (w : World) : Stage → Task World Unit → Prop
  | doing {g : Stage} {a : Activity World Unit} (between : g.Between) (obeys : Obeys g a Over) :
      Placed w g (.doing a)
  | asksToAttempt {ready : Bool} {body : Activity World Host}
      {next : Except Failure Host → Activity World Unit} (inside : Obeys .checking body Attempted)
      (after : AfterAttempt next) : Placed w (.free ready) (.waits .initialization body next)
  | toAttempt {ready : Bool} {body : Activity World Host}
      {next : Except Failure Host → Activity World Unit} (inside : Obeys .checking body Attempted)
      (after : AfterAttempt next) : Placed w (.free ready) (.took .initialization body next)
  | attempting {g : Stage} {body : Activity World Host}
      {next : Except Failure Host → Activity World Unit} (attempt : ¬g.Between)
      (inside : Obeys g body Attempted) (after : AfterAttempt next) :
      Placed w g (.inside .initialization (.doing body) next)
  | asksToUse {β : Type} {body : Activity World β} {next : Except Failure β → Activity World Unit}
      (inside : Obeys (.free false) body Over) (after : ∀ r, Obeys (.free false) (next r) Over) :
      Placed w (.free true) (.waits .use body next)
  | toUse {β : Type} {body : Activity World β} {next : Except Failure β → Activity World Unit}
      (inside : Obeys (.free false) body Over) (after : ∀ r, Obeys (.free false) (next r) Over) :
      Placed w (.free true) (.took .use body next)
  /-- Only here it matters what initialized the interpreter. -/
  | running {β : Type} {g : Stage} {body : Activity World β}
      {next : Except Failure β → Activity World Unit} (between : g.Between)
      (ready : w.initialized.isSome) (inside : Obeys g body Over)
      (after : ∀ r, Obeys (.free false) (next r) Over) :
      Placed w g (.inside .use (.doing body) next)
  | cleared {β : Type} {g : Stage} {purpose : Purpose} {r : Except Failure β}
      {next : Except Failure β → Activity World Unit} (between : g.Between)
      (after : Obeys g (next r) Over) : Placed w g (.cleared purpose r next)

namespace Placed

variable {w w' : World} {g : Stage} {t : Task World Unit}

/-- The place of a thread stays what it is while the interpreter is not
forgotten. -/
theorem mono (h : Placed w g t) (set : w.initialized.isSome → w'.initialized.isSome) :
    Placed w' g t := by
  cases h with
  | doing between obeys => exact .doing between obeys
  | asksToAttempt inside after => exact .asksToAttempt inside after
  | toAttempt inside after => exact .toAttempt inside after
  | attempting attempt inside after => exact .attempting attempt inside after
  | asksToUse inside after => exact .asksToUse inside after
  | toUse inside after => exact .toUse inside after
  | running between ready inside after => exact .running between (set ready) inside after
  | cleared between after => exact .cleared between after

/-- Attempts are made with the lock. -/
theorem attempt (h : Placed w g t) (attempting : ¬g.Between) :
    ∃ (body : Activity World Host) (next : Except Failure Host → Activity World Unit),
      t = .inside .initialization (.doing body) next := by
  cases h with
  | attempting => exact ⟨_, _, rfl⟩
  | doing between | running between | cleared between => exact (attempting between).elim
  | _ => exact (attempting trivial).elim

/-- A body that takes a step. -/
theorem inside {β : Type} {purpose : Purpose} {change : World → World}
    {body : World → Activity World β} {next : Except Failure β → Activity World Unit}
    (h : Placed w g (.inside purpose (.doing (.step change body)) next)) (sound : w.Sound)
    (fits : g.Fits w) :
    ∃ g', g.Does w (change w) g' ∧
      Placed (change w) g' (.inside purpose (.doing (body w)) next) := by
  cases h with
  | attempting attempt inside after =>
    cases inside with
    | step stage does rest =>
      have moved := does w sound fits
      exact ⟨_, moved, .attempting (mt moved.between_iff.mpr attempt) (rest w sound fits) after⟩
  | running between ready inside after =>
    cases inside with
    | step stage does rest =>
      have moved := does w sound fits
      exact ⟨_, moved,
        .running (moved.between_iff.mp between) (moved.ready ready) (rest w sound fits) after⟩

/-- A body that asks for the lock.  Attempts never do. -/
theorem refused {β γ : Type} {purpose inner : Purpose} {nested : Activity World γ}
    {body : Except Failure γ → Activity World β} {next : Except Failure β → Activity World Unit}
    (h : Placed w g (.inside purpose (.doing (.guarded inner nested body)) next)) :
    ∃ g', g.Passes (.refused inner) w w g' ∧
      Placed w g' (.inside purpose (.doing (body (.error (.error .reentrant)))) next) := by
  cases h with
  | attempting attempt inside after => cases inside <;> exact (attempt trivial).elim
  | running between ready inside after =>
    cases inside with
    | attempt inside ok failed =>
      exact ⟨_, .refused, .running trivial ready (failed _) after⟩
    | use inside rest => exact ⟨_, .refused, .running trivial ready (rest _) after⟩

/-- A body that comes to its end. -/
theorem leaves {β : Type} {purpose : Purpose} {r : Except Failure β}
    {next : Except Failure β → Activity World Unit}
    (h : Placed w g (.inside purpose (.doing (.ends r)) next)) :
    ∃ g', g.Passes (.leaves purpose (Task.failure? r)) w w g' ∧
      Placed w g' (.cleared purpose r next) := by
  cases h with
  | attempting attempt inside after =>
    cases inside with
    | ends post =>
      cases r with
      | ok h =>
        obtain ⟨library, has, rfl⟩ := post
        exact ⟨_, .succeeds, .cleared trivial (after.ok h library has)⟩
      | error f =>
        rcases post with ⟨rfl, plain⟩ | ⟨rfl, rfl⟩
        · exact ⟨_, .fails plain, .cleared trivial (after.failed f)⟩
        · exact ⟨_, .findsAnother, .cleared trivial (after.failed _)⟩
  | running between ready inside after =>
    cases inside with
    | ends post =>
      obtain ⟨b, rfl⟩ := post
      exact ⟨_, .used, .cleared trivial (after r)⟩

end Placed

namespace Threads

private theorem passes_set {c : Threads ι World Unit} {i : ι} {e : Event} {g g' : Stage}
    {t : Task World Unit} {v : View ι World} (passes : g.Passes e c.shared v.shared g')
    (placed : Placed v.shared g' t) :
    ∃ g', g.Passes e c.shared (c.set i t v).shared g' ∧
      Placed (c.set i t v).shared g' ((c.set i t v).tasks i) :=
  ⟨g', passes, by rwa [set_tasks_self]⟩

/-- Every step of a thread is one between stages. -/
theorem Moves.passes {c d : Threads ι World Unit} {i : ι} {e : Event} (h : c.Moves i e d)
    {g : Stage} (placed : Placed c.shared g (c.tasks i)) (fits : g.Fits c.shared)
    (sound : c.shared.Sound) :
    ∃ g', g.Passes e c.shared d.shared g' ∧ Placed d.shared g' (d.tasks i) := by
  cases h with
  | outside task =>
    rw [task] at placed
    cases placed with
    | doing between obeys =>
      cases obeys with
      | step stage does rest =>
        have moved := does _ sound fits
        exact passes_set (.silent moved) (.doing (moved.between_iff.mp between) (rest _ sound fits))
  | asks task =>
    rw [task] at placed
    cases placed with
    | doing between obeys =>
      cases obeys with
      | attempt inside ok failed =>
        exact passes_set .asks (.asksToAttempt inside ⟨ok, failed⟩)
      | use inside after =>
        exact passes_set .asks (.asksToUse inside after)
  | takes task free =>
    rw [task] at placed
    cases placed with
    | asksToAttempt inside after =>
      exact passes_set .takes (.toAttempt inside after)
    | asksToUse inside after =>
      exact passes_set .takes (.toUse inside after)
  | enters task owned =>
    rw [task] at placed
    cases placed with
    | toAttempt inside after =>
      exact passes_set .attempts (.attempting id inside after)
    | toUse inside after =>
      exact passes_set .uses (.running trivial (fits rfl) inside after)
  | inside task owned =>
    rw [task] at placed
    obtain ⟨g', does, after⟩ := placed.inside sound fits
    exact passes_set (.silent does) after
  | refused task owned =>
    rw [task] at placed
    obtain ⟨g', passes, after⟩ := placed.refused
    exact passes_set passes after
  | leaves task owned =>
    rw [task] at placed
    obtain ⟨g', passes, after⟩ := placed.leaves
    exact passes_set passes after
  | releases task owned =>
    rw [task] at placed
    cases placed with
    | cleared between after =>
      exact passes_set (.releases between) (.doing between after)

end Threads

end EmbeddedPython
