import EmbeddedPython.HostError
import EmbeddedPython.Steps

/-!
# Activities of a thread

An `Activity` is what a thread does to a state that it shares with others: it
takes steps, and it asks for the interpreter lock around a body, in which it may
ask for the lock again.  It ends in a result or in a `Failure`.

* `Activity.andThen` goes on after an activity, however it ended.
* `Activity.run` is what becomes of an activity while no other thread does
  anything.  The lock is not reentrant: whoever holds it and asks for it again
  is refused and goes on with the lock as it was.
-/

namespace EmbeddedPython

/-- What the interpreter lock is asked for. -/
inductive Purpose where
  | initialization
  | use
deriving Repr, DecidableEq

/-- What a thread does to a shared state. -/
inductive Activity (σ : Type) : Type → Type 1 where
  | ends {α : Type} (r : Except Failure α) : Activity σ α
  /-- The state is seen and changed.  What it was before the change decides how
  the thread goes on. -/
  | step {α : Type} (change : σ → σ) (next : σ → Activity σ α) : Activity σ α
  /-- The lock is held for as long as the body goes on. -/
  | guarded {α β : Type} (purpose : Purpose) (body : Activity σ β)
      (next : Except Failure β → Activity σ α) : Activity σ α

namespace Activity

variable {σ α β γ : Type}

/-- One activity after another one, whose end it knows. -/
def andThen {α β : Type} :
    Activity σ α → (Except Failure α → Activity σ β) → Activity σ β
  | ends r, k => k r
  | step change next, k => step change fun s => (next s).andThen k
  | guarded purpose body next, k => guarded purpose body fun r => (next r).andThen k

/-- The end in a failure, as it is for the result of any type. -/
def fails (f : Failure) : Activity σ α := ends (.error f)

/-- One activity after another one that came to a result. -/
def onResult (k : α → Activity σ β) : Except Failure α → Activity σ β
  | .ok a => k a
  | .error f => fails f

instance : Monad (Activity σ) where
  pure a := ends (.ok a)
  bind a k := a.andThen (onResult k)

instance : MonadStateOf σ (Activity σ) where
  get := step id fun s => ends (.ok s)
  set s := step (fun _ => s) fun _ => ends (.ok ⟨⟩)
  modifyGet f := step (fun s => (f s).2) fun s => ends (.ok (f s).1)

/-- The activity that is work without any need of the lock. -/
def ofSteps : Steps σ (Except Failure α) → Activity σ α
  | .done r => ends r
  | .step change next => step change fun s => ofSteps (next s)

/-- The end of an activity as a result. -/
def attempt (a : Activity σ α) : Activity σ (Except Failure α) :=
  a.andThen fun r => ends (.ok r)

/-- An activity after which the state is cleared up, unless it came to a
result. -/
def orClear (a : Activity σ α) (clear : σ → σ) : Activity σ α :=
  a.andThen fun
    | .ok a => ends (.ok a)
    | .error f => step clear fun _ => fails f

/-- What becomes of an activity of a lone thread that holds the lock or does
not. -/
def run {α : Type} : Activity σ α → Bool → σ → Except Failure α × σ
  | ends r, _, s => (r, s)
  | step change next, held, s => (next s).run held (change s)
  | guarded _ _ next, true, s => (next (.error (.error .reentrant))).run true s
  | guarded _ body next, false, s =>
    (next (body.run true s).1).run false (body.run true s).2

/-! ## Runs of a lone thread -/

@[simp]
theorem run_andThen (a : Activity σ α) (k : Except Failure α → Activity σ β) (held : Bool)
    (s : σ) : (a.andThen k).run held s = (k (a.run held s).1).run held (a.run held s).2 := by
  induction a generalizing held s with
  | ends r => rfl
  | step change next ih => exact ih s k held (change s)
  | guarded purpose body next _ ih =>
    cases held with
    | true => exact ih _ k true s
    | false => exact ih _ k false _

/-- Work goes on as it does by itself, whether the lock is held or not. -/
@[simp]
theorem run_ofSteps (w : Steps σ (Except Failure α)) (held : Bool) (s : σ) :
    (ofSteps w).run held s = w.run s := by
  induction w generalizing s with
  | done r => rfl
  | step change next ih => exact ih s (change s)

@[simp]
theorem run_attempt (a : Activity σ α) (held : Bool) (s : σ) :
    a.attempt.run held s = (.ok (a.run held s).1, (a.run held s).2) := by
  rw [attempt, run_andThen]
  rfl

/-! ## Sequences -/

theorem andThen_assoc (a : Activity σ α) (k : Except Failure α → Activity σ β)
    (l : Except Failure β → Activity σ γ) :
    (a.andThen k).andThen l = a.andThen fun r => (k r).andThen l := by
  induction a with
  | ends r => rfl
  | step change next ih =>
    simp only [andThen]
    congr 1
    funext s
    exact ih s k
  | guarded purpose body next _ ih =>
    simp only [andThen]
    congr 1
    funext r
    exact ih r k

end Activity

end EmbeddedPython
