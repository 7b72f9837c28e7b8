import EmbeddedPython.Embedding
import EmbeddedPython.Proofs.Threads.Interleaving

/-!
# The discipline of the interpreter lock

The mutex and the marks of the threads never change together, so between two
steps they need not agree.  `Task.Keeps` says for every place in an activity
what the mark of the thread is there and whether the thread owns the mutex:

| place             | mark  | mutex |
|-------------------|-------|-------|
| outside, waiting  | clear | no    |
| took              | clear | yes   |
| inside            | set   | yes   |
| cleared           | clear | yes   |

Inside, the thread is never on the way into a second body.  `Threads.Moves` is
what a step can be under this invariant, with everything it changes, and
`Threads.disciplined_of_runs` is what follows for every run.
-/

namespace EmbeddedPython

variable {ι σ α : Type} [DecidableEq ι]

namespace Task

/-- The mark and the ownership of the mutex that belong to a task. -/
def Keeps (t : Task σ α) (marked : Bool) (owns : Prop) : Prop :=
  match t with
  | doing _ | waits _ _ _ => marked = false ∧ ¬owns
  | took _ _ _ | cleared _ _ _ => marked = false ∧ owns
  | inside _ body _ => marked = true ∧ owns ∧ ∃ a, body = doing a

end Task

namespace Event

/-- A thread was refused. -/
def IsRefusal : Event → Prop
  | refused _ => True
  | _ => False

end Event

namespace Threads

/-- Every mark and the mutex are as the tasks of the threads say. -/
def Kept (c : Threads ι σ α) : Prop :=
  ∀ i, (c.tasks i).Keeps (c.marked i) (c.owner = some i)

/-- What a step of a thread is and what it changes, when every mark and the
mutex are as they should be. -/
inductive Moves (c : Threads ι σ α) (i : ι) : Event → Threads ι σ α → Prop
  | outside {change : σ → σ} {next : σ → Activity σ α}
      (task : c.tasks i = .doing (.step change next)) :
      Moves c i .silent
        (c.set i (.doing (next c.shared)) ⟨false, c.owner, change c.shared⟩)
  | asks {β : Type} {purpose : Purpose} {body : Activity σ β}
      {next : Except Failure β → Activity σ α}
      (task : c.tasks i = .doing (.guarded purpose body next)) :
      Moves c i (.asks purpose) (c.set i (.waits purpose body next) ⟨false, c.owner, c.shared⟩)
  | takes {β : Type} {purpose : Purpose} {body : Activity σ β}
      {next : Except Failure β → Activity σ α}
      (task : c.tasks i = .waits purpose body next) (free : c.owner = none) :
      Moves c i (.takes purpose) (c.set i (.took purpose body next) ⟨false, some i, c.shared⟩)
  | enters {β : Type} {purpose : Purpose} {body : Activity σ β}
      {next : Except Failure β → Activity σ α}
      (task : c.tasks i = .took purpose body next) (owned : c.owner = some i) :
      Moves c i (.enters purpose)
        (c.set i (.inside purpose (.doing body) next) ⟨true, some i, c.shared⟩)
  | inside {β : Type} {purpose : Purpose} {change : σ → σ} {body : σ → Activity σ β}
      {next : Except Failure β → Activity σ α}
      (task : c.tasks i = .inside purpose (.doing (.step change body)) next)
      (owned : c.owner = some i) :
      Moves c i .silent
        (c.set i (.inside purpose (.doing (body c.shared)) next)
          ⟨true, some i, change c.shared⟩)
  | refused {β γ : Type} {purpose inner : Purpose} {nested : Activity σ γ}
      {body : Except Failure γ → Activity σ β} {next : Except Failure β → Activity σ α}
      (task : c.tasks i = .inside purpose (.doing (.guarded inner nested body)) next)
      (owned : c.owner = some i) :
      Moves c i (.refused inner)
        (c.set i (.inside purpose (.doing (body (.error (.error .reentrant)))) next)
          ⟨true, some i, c.shared⟩)
  | leaves {β : Type} {purpose : Purpose} {r : Except Failure β}
      {next : Except Failure β → Activity σ α}
      (task : c.tasks i = .inside purpose (.doing (.ends r)) next) (owned : c.owner = some i) :
      Moves c i (.leaves purpose (Task.failure? r))
        (c.set i (.cleared purpose r next) ⟨false, some i, c.shared⟩)
  | releases {β : Type} {purpose : Purpose} {r : Except Failure β}
      {next : Except Failure β → Activity σ α}
      (task : c.tasks i = .cleared purpose r next) (owned : c.owner = some i) :
      Moves c i (.releases purpose) (c.set i (.doing (next r)) ⟨false, none, c.shared⟩)

/-! ## Steps -/

omit [DecidableEq ι] in
/-- What a thread sees, taken apart. -/
private theorem view_eq {c : Threads ι σ α} {i : ι} {marked : Bool} {owner : Option ι}
    (hm : c.marked i = marked) (ho : c.owner = owner) :
    c.view i = ⟨marked, owner, c.shared⟩ := by
  rw [view, hm, ho]

/-- Every step is one of the moves. -/
theorem moves_of_step {c d : Threads ι σ α} {i : ι} {e : Event} (kept : c.Kept)
    (h : c.step i = some (e, d)) : c.Moves i e d := by
  obtain ⟨⟨e', t, v⟩, hmove, heq⟩ := Option.map_eq_some_iff.mp h
  obtain ⟨rfl, rfl⟩ := Prod.mk.inj heq
  have own := kept i
  cases task : c.tasks i with
  | doing a =>
    rw [task] at own hmove
    rw [view_eq own.1 rfl] at hmove
    cases a with
    | ends r => cases hmove
    | step change next =>
      obtain ⟨rfl, rfl, rfl⟩ := hmove
      exact .outside task
    | guarded purpose body next =>
      obtain ⟨rfl, rfl, rfl⟩ := hmove
      exact .asks task
  | waits purpose body next =>
    rw [task] at own hmove
    cases free : c.owner with
    | some j => rw [view_eq own.1 free] at hmove; cases hmove
    | none =>
      rw [view_eq own.1 free] at hmove
      obtain ⟨rfl, rfl, rfl⟩ := hmove
      exact .takes task free
  | took purpose body next =>
    rw [task] at own hmove
    rw [view_eq own.1 own.2] at hmove
    obtain ⟨rfl, rfl, rfl⟩ := hmove
    exact .enters task own.2
  | inside purpose body next =>
    rw [task] at own hmove
    obtain ⟨marked, owned, a, rfl⟩ := own
    rw [view_eq marked owned] at hmove
    cases a with
    | ends r =>
      obtain ⟨rfl, rfl, rfl⟩ := hmove
      exact .leaves task owned
    | step change k =>
      obtain ⟨rfl, rfl, rfl⟩ := hmove
      exact .inside task owned
    | guarded inner nested k =>
      obtain ⟨rfl, rfl, rfl⟩ := hmove
      exact .refused task owned
  | cleared purpose r next =>
    rw [task] at own hmove
    rw [view_eq own.1 own.2] at hmove
    obtain ⟨rfl, rfl, rfl⟩ := hmove
    exact .releases task own.2

/-- A step keeps the invariant when the thread that took it keeps its own part
and no other thread gains or loses the mutex. -/
private theorem kept_set {c : Threads ι σ α} (kept : c.Kept) {i : ι} {t : Task σ α}
    {v : View ι σ} (own : t.Keeps v.marked (v.owner = some i))
    (others : ∀ j, j ≠ i → (v.owner = some j ↔ c.owner = some j)) : (c.set i t v).Kept := by
  intro j
  by_cases h : j = i
  · subst h
    rwa [set_tasks_self, set_marked_self, set_owner]
  · rw [set_tasks_of_ne c h, set_marked_of_ne c h, set_owner, others j h]
    exact kept j

/-- Every move keeps the invariant. -/
theorem Moves.kept {c d : Threads ι σ α} {i : ι} {e : Event} (kept : c.Kept)
    (h : c.Moves i e d) : d.Kept := by
  have own := kept i
  cases h with
  | outside task =>
    rw [task] at own
    exact kept_set kept ⟨rfl, own.2⟩ fun _ _ => Iff.rfl
  | asks task =>
    rw [task] at own
    exact kept_set kept ⟨rfl, own.2⟩ fun _ _ => Iff.rfl
  | takes task free =>
    refine kept_set kept ⟨rfl, rfl⟩ fun j hj => ?_
    simp [free, hj.symm]
  | enters task owned =>
    exact kept_set kept ⟨rfl, rfl, _, rfl⟩ fun j _ => by rw [owned]
  | inside task owned =>
    exact kept_set kept ⟨rfl, rfl, _, rfl⟩ fun j _ => by rw [owned]
  | refused task owned =>
    exact kept_set kept ⟨rfl, rfl, _, rfl⟩ fun j _ => by rw [owned]
  | leaves task owned =>
    exact kept_set kept ⟨rfl, rfl⟩ fun j _ => by rw [owned]
  | releases task owned =>
    refine kept_set kept ⟨rfl, by simp⟩ fun j hj => ?_
    simp [owned, hj.symm]

omit [DecidableEq ι] in
theorem kept_start (activities : ι → Activity σ α) (s : σ) :
    (start activities s).Kept := fun _ => ⟨rfl, by simp [start]⟩

/-- Every run keeps the invariant. -/
theorem Runs.kept {c d : Threads ι σ α} {es : List (ι × Event)} (runs : Runs c es d)
    (kept : c.Kept) : d.Kept :=
  runs.invariant kept fun _ _ _ _ kept h => (moves_of_step kept h).kept kept

/-- A body that goes on before a step of a thread that is in none goes on after
it. -/
theorem outside_of_set {c : Threads ι σ α} {i : ι} {t : Task σ α} {v : View ι σ}
    (outside : ¬(c.tasks i).Inside) (h : ∀ j, ¬((c.set i t v).tasks j).Inside) (j : ι) :
    ¬(c.tasks j).Inside := by
  by_cases hj : j = i
  · rwa [hj]
  · have after := h j
    rwa [set_tasks_of_ne c hj] at after

/-! ## The discipline -/

/-- What is promised of the lock at every moment.  -/
structure Disciplined (c : Threads ι σ α) : Prop where
  /-- At most one thread runs a body. -/
  one_inside : ∀ i j, (c.tasks i).Inside → (c.tasks j).Inside → i = j
  /-- Whoever runs a body is marked and owns the mutex. -/
  inside_owns : ∀ i, (c.tasks i).Inside → c.marked i = true ∧ c.owner = some i
  /-- Whoever starts a call is marked exactly when it owns the mutex. -/
  starts_marked : ∀ i, (c.tasks i).Starts → (c.marked i = true ↔ c.owner = some i)
  /-- Nobody waits for a mutex of its own. -/
  never_self : ∀ i, (c.tasks i).Waits → c.owner ≠ some i
  /-- Whoever starts a call while it owns the mutex is refused, and nothing but
  its own way on changes. -/
  refuses : ∀ i, (c.tasks i).Starts → c.owner = some i →
    ∃ purpose, c.step i =
      some (.refused purpose, { c with tasks := Function.update c.tasks i (c.tasks i).refused })
  /-- Whoever does not own the mutex is never refused. -/
  refused_owns : ∀ i e d, c.step i = some (e, d) → e.IsRefusal → c.owner = some i
  /-- Whoever is outside of every call is not marked and does not own the
  mutex. -/
  outside_free : ∀ i, (c.tasks i).Outside → c.marked i = false ∧ c.owner ≠ some i
  /-- A body that has ended, in whatever way, gives the lock back in two steps of
  its thread. -/
  gives_back : ∀ i (β : Type) purpose (r : Except Failure β) next,
    c.tasks i = .inside purpose (.doing (.ends r)) next →
    ∃ d d', c.step i = some (.leaves purpose (Task.failure? r), d) ∧
      d.step i = some (.releases purpose, d') ∧
      d'.tasks i = .doing (next r) ∧ d'.marked i = false ∧ d'.owner = none ∧
      d'.shared = c.shared

omit [DecidableEq ι] in
/-- A thread that runs a body is marked and owns the mutex. -/
private theorem Kept.of_inside {c : Threads ι σ α} (kept : c.Kept) {i : ι}
    (h : (c.tasks i).Inside) :
    c.marked i = true ∧ c.owner = some i ∧
      ∃ (β : Type) (purpose : Purpose) (a : Activity σ β)
        (next : Except Failure β → Activity σ α),
        c.tasks i = .inside purpose (.doing a) next := by
  have own := kept i
  cases task : c.tasks i with
  | inside purpose body next =>
    rw [task] at own
    obtain ⟨marked, owned, a, rfl⟩ := own
    exact ⟨marked, owned, _, purpose, a, next, rfl⟩
  | _ => rw [task] at h; exact h.elim

omit [DecidableEq ι] in
/-- A thread that starts a call is outside of every other one, or in a body. -/
private theorem Kept.of_starts {c : Threads ι σ α} (kept : c.Kept) {i : ι}
    (h : (c.tasks i).Starts) :
    (c.marked i = false ∧ c.owner ≠ some i) ∨ (c.tasks i).Inside := by
  have own := kept i
  cases task : c.tasks i with
  | doing a => rw [task] at own; exact .inl own
  | inside purpose body next => exact .inr trivial
  | _ => rw [task] at h; exact h.elim

/-- Under the invariant, a thread that starts a call while it owns the mutex is
refused, and nothing but its own way on changes. -/
private theorem Kept.refuses {c : Threads ι σ α} (kept : c.Kept) {i : ι}
    (h : (c.tasks i).Starts) (owned : c.owner = some i) :
    ∃ purpose, c.step i =
      some (.refused purpose, { c with tasks := Function.update c.tasks i (c.tasks i).refused }) := by
  have inside := (kept.of_starts h).resolve_left fun free => free.2 owned
  obtain ⟨marked, -, β, purpose, a, next, task⟩ := kept.of_inside inside
  rw [task] at h
  cases a with
  | ends r => exact h.elim
  | step change k => exact h.elim
  | guarded inner nested k =>
    refine ⟨inner, ?_⟩
    have seen : c.view i = ⟨true, some i, c.shared⟩ := view_eq marked owned
    rw [step_of_move (e := .refused inner) (t := (c.tasks i).refused) (v := c.view i)
      (by rw [task, seen]; rfl)]
    simp [set, view]

/-- Under the invariant, the lock is as it is promised. -/
theorem Kept.disciplined {c : Threads ι σ α} (kept : c.Kept) : c.Disciplined where
  one_inside i j hi hj := by
    have owned := (kept.of_inside hi).2.1
    rw [(kept.of_inside hj).2.1] at owned
    exact (Option.some.inj owned).symm
  inside_owns i h := ⟨(kept.of_inside h).1, (kept.of_inside h).2.1⟩
  starts_marked i h := by
    rcases kept.of_starts h with ⟨marked, free⟩ | inside
    · simp [marked, free]
    · obtain ⟨marked, owned, -⟩ := kept.of_inside inside
      simp [marked, owned]
  never_self i h := by
    have own := kept i
    cases task : c.tasks i with
    | waits purpose body next => rw [task] at own; exact own.2
    | inside purpose body next =>
      rw [task] at own h
      obtain ⟨-, -, a, rfl⟩ := own
      exact h.elim
    | _ => rw [task] at h; exact h.elim
  refuses i h owned := kept.refuses h owned
  refused_owns i e d h refusal := by
    cases moves_of_step kept h with
    | refused task owned => exact owned
    | _ => exact refusal.elim
  outside_free i h := by
    have own := kept i
    cases task : c.tasks i with
    | doing a => rw [task] at own; exact own
    | _ => rw [task] at h; exact h.elim
  gives_back i β purpose r next task := by
    obtain ⟨marked, owned, -⟩ := kept.of_inside (i := i) (by rw [task]; trivial)
    have left := step_of_move (c := c) (i := i)
      (by rw [task, view_eq marked owned]; rfl)
    have released := step_of_move
      (c := c.set i (.cleared purpose r next) ⟨false, some i, c.shared⟩) (i := i)
      (by rw [set_tasks_self, view_set]; rfl)
    exact ⟨_, _, left, released, by simp⟩

/-- However many threads there are, whatever each of them does, and in whatever
order they take their steps, the lock is as it is promised at every moment. -/
theorem disciplined_of_runs (activities : ι → Activity σ α) (s : σ)
    (es : List (ι × Event)) (c : Threads ι σ α) (runs : Runs (start activities s) es c) :
    c.Disciplined :=
  (runs.kept (kept_start activities s)).disciplined

/-- An operation that asks for the lock while it has it. -/
private def nestedCall : Op Unit :=
  .locked (.locked (pure ()))

/-- A process with an interpreter. -/
private def readyProcess : Embedding :=
  { (default : Embedding) with initialized := some ⟨⟨3, none⟩, ⟨[]⟩⟩ }

/-- One thread is about to be refused while another one waits for the mutex. -/
theorem disciplined_of_nested_call :
    ∃ es c, Runs (start (fun _ : Bool => nestedCall) readyProcess) es c ∧
      (c.tasks true).Starts ∧ (c.tasks false).Waits ∧ c.owner = some true ∧
      c.Disciplined := by
  have runs : ∃ es c, Runs (start (fun _ : Bool => nestedCall) readyProcess) es c ∧
      (c.tasks true).Starts ∧ (c.tasks false).Waits ∧ c.owner = some true := by
    exact ⟨_, _, runs_of_follow [true, true, true, true, true, false, false] rfl,
      trivial, trivial, rfl⟩
  obtain ⟨es, c, runs, starts, waits, owned⟩ := runs
  exact ⟨es, c, runs, starts, waits, owned, disciplined_of_runs _ _ es c runs⟩

end Threads

end EmbeddedPython
