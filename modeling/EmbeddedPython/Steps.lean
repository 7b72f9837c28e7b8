/-!
# Work in steps

A `Steps σ` is work on a state of type `σ` that is done in steps.  A step sees
the state and changes it at once; between two steps whoever else works on the
same state may change it.

* `Steps.run` does the work while nobody else works on the state.
* `Steps.on` is work on a part of a larger state.  A `Part` says where the
  part is, and whatever is outside of it stays as it is.
-/

namespace EmbeddedPython

/-- Work that is done in steps and ends in a result. -/
inductive Steps (σ α : Type) where
  | done (a : α)
  /-- The state is seen and changed.  What it was before the change decides how
  the work goes on. -/
  | step (change : σ → σ) (next : σ → Steps σ α)

/-- A part of a state: how to see it, and how to put another one in its place. -/
structure Part (σ τ : Type) where
  get : σ → τ
  put : τ → σ → σ
  get_put : ∀ t s, get (put t s) = t
  put_get : ∀ s, put (get s) s = s
  put_put : ∀ t u s, put t (put u s) = put t s

namespace Steps

variable {σ τ α β : Type}

/-- One work after another one. -/
def bind : Steps σ α → (α → Steps σ β) → Steps σ β
  | done a, k => k a
  | step change next, k => step change fun s => (next s).bind k

instance : Monad (Steps σ) where
  pure := done
  bind := bind

instance : MonadStateOf σ (Steps σ) where
  get := step id done
  set s := step (fun _ => s) fun _ => done ⟨⟩
  modifyGet f := step (fun s => (f s).2) fun s => done (f s).1

/-- The result of work that nobody else gets in the way of, and the state after
it. -/
def run : Steps σ α → σ → α × σ
  | done a, s => (a, s)
  | step change next, s => (next s).run (change s)

/-- Work on a part of a state. -/
def on (part : Part σ τ) : Steps τ α → Steps σ α
  | done a => done a
  | step change next =>
    step (fun s => part.put (change (part.get s)) s) fun s => (next (part.get s)).on part

/-! ## Runs -/

@[simp]
theorem run_pure (a : α) (s : σ) : (pure a : Steps σ α).run s = (a, s) := rfl

@[simp]
theorem run_bind (w : Steps σ α) (k : α → Steps σ β) (s : σ) :
    (w >>= k).run s = (k (w.run s).1).run (w.run s).2 := by
  show (w.bind k).run s = _
  induction w generalizing s with
  | done a => rfl
  | step change next ih => exact ih s (change s)

theorem bind_assoc {γ : Type} (t : Steps σ α) (k : α → Steps σ β) (l : β → Steps σ γ) :
    (t >>= k) >>= l = t >>= fun a => k a >>= l := by
  show (t.bind k).bind l = t.bind fun a => (k a).bind l
  induction t with
  | done a => rfl
  | step change next ih => exact congrArg (step change) (funext fun s => ih s)

@[simp]
theorem run_get (s : σ) : (get : Steps σ σ).run s = (s, s) := rfl

@[simp]
theorem run_modify (f : σ → σ) (s : σ) : (modify f : Steps σ Unit).run s = ((), f s) := rfl

/-- Work on a part changes the part as it would if there were nothing else. -/
@[simp]
theorem run_on (part : Part σ τ) (w : Steps τ α) (s : σ) :
    (w.on part).run s =
      ((w.run (part.get s)).1, part.put (w.run (part.get s)).2 s) := by
  induction w generalizing s with
  | done a => simp only [on, run, part.put_get]
  | step change next ih =>
    simp only [on, run]
    rw [ih, part.get_put, part.put_put]

end Steps

end EmbeddedPython
