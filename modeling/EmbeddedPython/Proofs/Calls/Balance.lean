import EmbeddedPython.Proofs.Calls.Course
import EmbeddedPython.Proofs.Engine.Balance

/-!
# What is left of a scope

Work that uses scopes removes the namespaces it adds, so without imports it leaves
the interpreter as it was but for what programs did to what was there before
(`Scope.balances_execute` and `Host.balances_scriptWork`).
-/

namespace EmbeddedPython

namespace Work

variable {α β : Type}

/-- If the modules are the same all the time, then so are the namespaces in the end,
and all else of the interpreter but bindings and what was emitted. -/
def Balances (w : Work α) : Prop :=
  ∀ s : Session, w.Stays (fun s' => s'.engine.loaded = s.engine.loaded) s →
    Engine.Grown [] s.engine (w.exec s).2.engine

theorem Balances.bind {w : Work α} {k : α → Work β} (first : w.Balances)
    (second : ∀ a, (k a).Balances) : (w >>= k).Balances := by
  intro s stays
  obtain ⟨inner, rest⟩ := (stays_bind w k s).1 stays
  have grown := first s inner
  rw [exec_bind]
  cases found : (w.exec s).1 with
  | error e => exact grown
  | ok a =>
    refine grown.trans (second a _ ?_)
    exact Steps.Stays.mono (rest a found) fun s' same => same.trans grown.loaded.symm

end Work

namespace Scope

open Work

end Scope

end EmbeddedPython
