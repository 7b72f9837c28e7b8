import EmbeddedPython.Activity
import Mathlib.Logic.Function.Basic

/-!
# Threads that share a state

Any number of threads carry out activities on one shared state, and their steps
may come in any order.  The interpreter lock is two things: one mutex, and for
each thread a mark that says that the thread holds the mutex.  They never change
in the same step:

* a thread that asks for the lock first looks at its mark, and is refused if the
  mark is set;
* then it takes the mutex, which nobody may own, and marks itself;
* at the end of the body, whatever the end is, it clears its mark and then gives
  the mutex back.

A `Task` says where a thread is on that way, and `Task.move` is its next step.
`Threads` are all threads together, and `Threads.Runs` is any number of steps of
any of them, with the list of what they did.

`Threads.runs_alone` says that a thread that is left alone comes to the end that
`Activity.run` gives it.
-/

namespace EmbeddedPython

/-- What a step does with the lock. -/
inductive Event where
  | silent
  /-- The lock is asked for, and whoever asks has it already. -/
  | refused (purpose : Purpose)
  /-- The lock is asked for. -/
  | asks (purpose : Purpose)
  /-- The mutex is taken. -/
  | takes (purpose : Purpose)
  /-- The mark is set, and the body starts. -/
  | enters (purpose : Purpose)
  /-- The body came to its end, with a failure or without one, and the mark is
  cleared. -/
  | leaves (purpose : Purpose) (failure : Option Failure)
  /-- The mutex is given back. -/
  | releases (purpose : Purpose)
deriving Repr, DecidableEq

/-- Where a thread is in an activity. -/
inductive Task (σ : Type) : Type → Type 1 where
  | doing {α : Type} (a : Activity σ α) : Task σ α
  /-- The thread found no mark and is going to take the mutex. -/
  | waits {α β : Type} (purpose : Purpose) (body : Activity σ β)
      (next : Except Failure β → Activity σ α) : Task σ α
  /-- The thread took the mutex and is going to mark itself. -/
  | took {α β : Type} (purpose : Purpose) (body : Activity σ β)
      (next : Except Failure β → Activity σ α) : Task σ α
  /-- The body goes on. -/
  | inside {α β : Type} (purpose : Purpose) (body : Task σ β)
      (next : Except Failure β → Activity σ α) : Task σ α
  /-- The mark is cleared, and the mutex is going to be given back. -/
  | cleared {α β : Type} (purpose : Purpose) (r : Except Failure β)
      (next : Except Failure β → Activity σ α) : Task σ α

/-- What a thread sees: its own mark, who owns the mutex, and the shared
state. -/
structure View (ι σ : Type) where
  marked : Bool
  owner : Option ι
  shared : σ

namespace Task

variable {ι σ : Type} [DecidableEq ι]

/-- The end of an activity that came to it. -/
def result? {α : Type} : Task σ α → Option (Except Failure α)
  | doing (.ends r) => some r
  | _ => none

/-- The failure that an end is. -/
def failure? {α : Type} : Except Failure α → Option Failure
  | .ok _ => none
  | .error f => some f

/-- The next step of a thread, if it can take one. -/
def move (i : ι) (v : View ι σ) :
    {α : Type} → Task σ α → Option (Event × Task σ α × View ι σ)
  | _, doing (.ends _) => none
  | _, doing (.step change next) =>
    some (.silent, doing (next v.shared), { v with shared := change v.shared })
  | _, doing (.guarded purpose body next) =>
    if v.marked then some (.refused purpose, doing (next (.error (.error .reentrant))), v)
    else some (.asks purpose, waits purpose body next, v)
  | _, waits purpose body next =>
    match v.owner with
    | none => some (.takes purpose, took purpose body next, { v with owner := some i })
    | some _ => none
  | _, took purpose body next =>
    some (.enters purpose, inside purpose (doing body) next, { v with marked := true })
  | _, inside purpose body next =>
    match body.result? with
    | some r => some (.leaves purpose (failure? r), cleared purpose r next, { v with marked := false })
    | none => (body.move i v).map fun (e, body, v) => (e, inside purpose body next, v)
  | _, cleared purpose r next =>
    some (.releases purpose, doing (next r), { v with owner := none })

/-! ## Where a thread is -/

/-- A body goes on. -/
def Inside {α : Type} : Task σ α → Prop
  | inside _ _ _ => True
  | _ => False

/-- No lock was asked for that was not given back. -/
def Outside {α : Type} : Task σ α → Prop
  | doing _ => True
  | _ => False

/-- The next step is to ask for the lock. -/
def Starts : {α : Type} → Task σ α → Prop
  | _, doing (.guarded _ _ _) => True
  | _, inside _ body _ => body.Starts
  | _, _ => False

/-- The next step is to take the mutex. -/
def Waits : {α : Type} → Task σ α → Prop
  | _, waits _ _ _ => True
  | _, inside _ body _ => body.Waits
  | _, _ => False

/-- The task of a thread that asked for the lock and was refused. -/
def refused : {α : Type} → Task σ α → Task σ α
  | _, doing (.guarded _ _ next) => doing (next (.error (.error .reentrant)))
  | _, inside purpose body next => inside purpose body.refused next
  | _, t => t

end Task

/-- Threads, each with its task and its mark, the owner of the mutex and the
shared state. -/
structure Threads (ι σ α : Type) where
  tasks : ι → Task σ α
  marked : ι → Bool
  owner : Option ι
  shared : σ

namespace Threads

variable {ι σ α : Type} [DecidableEq ι]

/-- The threads before any of them took a step. -/
def start (activities : ι → Activity σ α) (s : σ) : Threads ι σ α :=
  ⟨fun i => .doing (activities i), fun _ => false, none, s⟩

/-- What a thread sees. -/
def view (c : Threads ι σ α) (i : ι) : View ι σ :=
  ⟨c.marked i, c.owner, c.shared⟩

/-- The threads after one of them took a step. -/
def set (c : Threads ι σ α) (i : ι) (t : Task σ α) (v : View ι σ) : Threads ι σ α :=
  ⟨Function.update c.tasks i t, Function.update c.marked i v.marked, v.owner, v.shared⟩

/-- The step of a thread, if it can take one. -/
def step (c : Threads ι σ α) (i : ι) : Option (Event × Threads ι σ α) :=
  ((c.tasks i).move i (c.view i)).map fun (e, t, v) => (e, c.set i t v)

/-- Steps of threads in any order, and what they did. -/
inductive Runs : Threads ι σ α → List (ι × Event) → Threads ι σ α → Prop
  | refl (c : Threads ι σ α) : Runs c [] c
  | step {c d d' : Threads ι σ α} {es : List (ι × Event)} {i : ι} {e : Event}
      (steps : Runs c es d) (last : d.step i = some (e, d')) : Runs c (es ++ [(i, e)]) d'

/-- What threads come to that take their steps in a given order. -/
def follow (c : Threads ι σ α) : List ι → Option (List (ι × Event) × Threads ι σ α)
  | [] => some ([], c)
  | i :: rest =>
    match c.step i with
    | none => none
    | some (e, d) => (d.follow rest).map fun (es, d') => ((i, e) :: es, d')

/-! ## Updates of one thread -/

@[simp]
theorem set_tasks_self (c : Threads ι σ α) (i : ι) (t : Task σ α) (v : View ι σ) :
    (c.set i t v).tasks i = t := Function.update_self ..

@[simp]
theorem set_marked_self (c : Threads ι σ α) (i : ι) (t : Task σ α) (v : View ι σ) :
    (c.set i t v).marked i = v.marked := Function.update_self ..

theorem set_tasks_of_ne (c : Threads ι σ α) {i j : ι} (h : j ≠ i) (t : Task σ α)
    (v : View ι σ) : (c.set i t v).tasks j = c.tasks j := Function.update_of_ne h ..

theorem set_marked_of_ne (c : Threads ι σ α) {i j : ι} (h : j ≠ i) (t : Task σ α)
    (v : View ι σ) : (c.set i t v).marked j = c.marked j := Function.update_of_ne h ..

@[simp]
theorem set_owner (c : Threads ι σ α) (i : ι) (t : Task σ α) (v : View ι σ) :
    (c.set i t v).owner = v.owner := rfl

@[simp]
theorem set_shared (c : Threads ι σ α) (i : ι) (t : Task σ α) (v : View ι σ) :
    (c.set i t v).shared = v.shared := rfl

@[simp]
theorem view_set (c : Threads ι σ α) (i : ι) (t : Task σ α) (v : View ι σ) :
    (c.set i t v).view i = v := by
  simp [view]

@[simp]
theorem set_set (c : Threads ι σ α) (i : ι) (t u : Task σ α) (v w : View ι σ) :
    (c.set i t v).set i u w = c.set i u w := by
  simp [set]

theorem set_self (c : Threads ι σ α) (i : ι) : c.set i (c.tasks i) (c.view i) = c := by
  simp [set, view]

/-! ## Runs -/

/-- A step is a move of the task of its thread. -/
theorem step_of_move {c : Threads ι σ α} {i : ι} {e : Event} {t : Task σ α} {v : View ι σ}
    (h : (c.tasks i).move i (c.view i) = some (e, t, v)) :
    c.step i = some (e, c.set i t v) := by
  rw [step, h]
  rfl

/-- The tasks of other threads stay as they are. -/
theorem tasks_of_step {c d : Threads ι σ α} {i j : ι} {e : Event} (other : j ≠ i)
    (h : c.step i = some (e, d)) : d.tasks j = c.tasks j := by
  obtain ⟨⟨_, t, v⟩, -, heq⟩ := Option.map_eq_some_iff.mp h
  obtain ⟨-, rfl⟩ := Prod.mk.inj heq
  exact set_tasks_of_ne c other t v

/-- Runs one after another are one run. -/
theorem Runs.trans {c d d' : Threads ι σ α} {es fs : List (ι × Event)} (first : Runs c es d)
    (second : Runs d fs d') : Runs c (es ++ fs) d' := by
  induction second with
  | refl => rwa [List.append_nil]
  | step _ last ih =>
    rw [← List.append_assoc]
    exact ih.step last

/-- Following an order is a run. -/
theorem runs_of_follow {c d : Threads ι σ α} (order : List ι) {es : List (ι × Event)}
    (h : c.follow order = some (es, d)) : Runs c es d := by
  induction order generalizing c es with
  | nil =>
    obtain ⟨rfl, rfl⟩ := Prod.mk.inj (Option.some.inj h)
    exact .refl c
  | cons i rest ih =>
    cases hstep : c.step i with
    | none => simp [follow, hstep] at h
    | some first =>
      simp only [follow, hstep, Option.map_eq_some_iff] at h
      obtain ⟨⟨fs, d'⟩, hrest, heq⟩ := h
      obtain ⟨rfl, rfl⟩ := Prod.mk.inj heq
      exact ((Runs.refl c).step hstep).trans (ih hrest)

/-- What holds at first and is kept by every step holds after every run. -/
theorem Runs.invariant {Good : Threads ι σ α → Prop} {c d : Threads ι σ α}
    {es : List (ι × Event)} (runs : Runs c es d) (first : Good c)
    (kept : ∀ c i e d, Good c → c.step i = some (e, d) → Good d) : Good d := by
  induction runs with
  | refl => exact first
  | step _ last ih => exact kept _ _ _ _ ih last

/-! ## A thread that is left alone -/

/-- The step of a thread that was just moved somewhere. -/
private theorem step_set (c : Threads ι σ α) {i : ι} {e : Event} {t u : Task σ α}
    {v w : View ι σ} (h : t.move i v = some (e, u, w)) :
    (c.set i t v).step i = some (e, c.set i u w) := by
  rw [step_of_move (by rwa [set_tasks_self, view_set]), set_set]

/-- A run that starts with a step. -/
private theorem runs_cons {c d d' : Threads ι σ α} {i : ι} {e : Event}
    (first : c.step i = some (e, d)) (rest : ∃ es, Runs d es d') : ∃ es, Runs c es d' := by
  obtain ⟨es, rest⟩ := rest
  exact ⟨_, ((Runs.refl c).step first).trans rest⟩

/-- The body of a marked thread goes to its end, since every call for the lock
in it is refused at once. -/
private theorem runs_inside {β : Type} (purpose : Purpose)
    (next : Except Failure β → Activity σ α) (body : Activity σ β)
    (c : Threads ι σ α) (i : ι) (s : σ) :
    ∃ es, Runs (c.set i (.inside purpose (.doing body) next) ⟨true, some i, s⟩) es
      (c.set i (.inside purpose (.doing (.ends (body.run true s).1)) next)
        ⟨true, some i, (body.run true s).2⟩) := by
  induction body generalizing s with
  | ends r => exact ⟨[], .refl _⟩
  | step change k ih => exact runs_cons (step_set c rfl) (ih s next (change s))
  | guarded inner b k _ ih =>
    exact runs_cons (step_set c rfl) (ih (.error (.error .reentrant)) next s)

/-- A thread that asks for the lock while nobody has it, and is left alone, comes
to the end of the body. -/
theorem runs_guarded {β : Type} (purpose : Purpose) (body : Activity σ β)
    (next : Except Failure β → Activity σ α) (c : Threads ι σ α) (i : ι) (s : σ) :
    ∃ es, Runs (c.set i (.doing (.guarded purpose body next)) ⟨false, none, s⟩) es
        (c.set i (.doing (next (body.run true s).1)) ⟨false, none, (body.run true s).2⟩) ∧
      (i, .leaves purpose (Task.failure? (body.run true s).1)) ∈ es := by
  -- The lock is asked for, the mutex is taken, and the mark is set.
  have asks := (Runs.refl _).step (step_set c (i := i) (t := .doing (.guarded purpose body next))
    (v := ⟨false, none, s⟩) rfl)
  have enters := (asks.step (step_set c rfl)).step (step_set c rfl)
  obtain ⟨es, inside⟩ := runs_inside purpose next body c i s
  -- The mark is cleared, and the mutex is given back.
  have leaves := (enters.trans inside).step (step_set c rfl)
  exact ⟨_, leaves.step (step_set c rfl), by simp⟩

/-- A thread that is left alone while nobody has the lock comes to the end that
`Activity.run` gives its activity, and nobody has the lock then. -/
theorem runs_alone (a : Activity σ α) (c : Threads ι σ α) (i : ι) (s : σ) :
    ∃ es, Runs (c.set i (.doing a) ⟨false, none, s⟩) es
      (c.set i (.doing (.ends (a.run false s).1)) ⟨false, none, (a.run false s).2⟩) := by
  induction a generalizing s with
  | ends r => exact ⟨[], .refl _⟩
  | step change next ih => exact runs_cons (step_set c rfl) (ih s c (change s))
  | guarded purpose body next _ ih =>
    obtain ⟨es, first, -⟩ := runs_guarded purpose body next c i s
    obtain ⟨fs, rest⟩ := ih (body.run true s).1 c (body.run true s).2
    exact ⟨es ++ fs, first.trans rest⟩

end Threads

end EmbeddedPython
