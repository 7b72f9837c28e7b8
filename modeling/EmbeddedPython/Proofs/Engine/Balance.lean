import EmbeddedPython.Proofs.Engine.Closure
import EmbeddedPython.Proofs.Engine.Course

/-!
# What is left of work without imports

Each namespace that a program adds belongs to a call and is gone after it; one that
stays is only added by an import.  So work that never changes which modules there
are leaves the same namespaces behind, and nothing of the interpreter but bindings
and what was emitted is another afterwards (`isClosed_balances`).
-/

namespace EmbeddedPython

namespace Engine

/-- The same engine but for bindings, for what was emitted, and for some more
namespaces. -/
structure Grown (more : List Home) (e e' : Engine) : Prop where
  rest : { e' with spaces := e.spaces, emitted := e.emitted } = e
  homes : e'.spaces.map Prod.fst = e.spaces.map Prod.fst ++ more
  new : ∀ home ∈ more, home ∉ e.spaces.map Prod.fst

namespace Grown

variable {e e' e'' : Engine} {more : List Home}

theorem refl (e : Engine) : Grown [] e e :=
  ⟨rfl, (List.append_nil _).symm, fun _ there => nomatch there⟩

theorem trans (h : Grown more e e') (h' : Grown [] e' e'') : Grown more e e'' := by
  refine ⟨?_, ?_, h.new⟩
  · calc { e'' with spaces := e.spaces, emitted := e.emitted }
      _ = { { e'' with spaces := e'.spaces, emitted := e'.emitted } with
            spaces := e.spaces, emitted := e.emitted } := rfl
      _ = { e' with spaces := e.spaces, emitted := e.emitted } := by rw [h'.rest]
      _ = e := h.rest
  · rw [h'.homes, List.append_nil, h.homes]

theorem loaded (h : Grown more e e') : e'.loaded = e.loaded := by rw [← h.rest]

theorem update (e : Engine) (home : Home) (f : Namespace → Namespace) :
    Grown [] e (e.update home f) := by
  refine ⟨rfl, ?_, fun _ there => nomatch there⟩
  rw [Engine.update, List.map_map, List.append_nil]
  rfl

theorem emit (e : Engine) (v : Value) : Grown [] e (e.emit v) :=
  ⟨rfl, (List.append_nil _).symm, fun _ there => nomatch there⟩

theorem allocate (e : Engine) (ns : Namespace) : Grown [e.fresh] e (e.allocate ns) := by
  refine ⟨rfl, List.map_append, fun home mine there => ?_⟩
  obtain ⟨s, hs, same⟩ := List.mem_map.1 there
  rw [List.mem_singleton.1 mine] at same
  exact bne_iff_ne.1 (List.lookup_eq_none_iff.1 e.space?_fresh s hs) same.symm

theorem release {home : Home} (h : Grown [home] e e') : Grown [] e (e'.release home) := by
  refine ⟨h.rest, ?_, fun _ there => nomatch there⟩
  have kept : (e'.spaces.filter fun s => s.1 != home).map Prod.fst
      = (e'.spaces.map Prod.fst).filter (· != home) := by
    rw [List.filter_map]
    rfl
  have gone : [home].filter (· != home) = [] := by simp
  rw [List.append_nil, Engine.release, kept, h.homes, List.filter_append, gone, List.append_nil,
    List.filter_eq_self]
  exact fun other there => bne_iff_ne.2 fun same =>
    h.new home List.mem_cons_self (same ▸ there)

end Grown

end Engine

namespace Run

variable {α β : Type}

/-- The modules are those of an engine. -/
def Importless (e : Engine) (w : Workspace) : Prop := w.engine.loaded = e.loaded

/-- If the modules are the same all the time, then so are the namespaces in the end,
and all else of the engine but bindings and what was emitted. -/
def Balances (r : Run α) : Prop :=
  ∀ w, r.Stays (Importless w.engine) w → Engine.Grown [] w.engine (r.exec w).2.engine

theorem Balances.bind {r : Run α} {k : α → Run β} (first : r.Balances)
    (second : ∀ a, (k a).Balances) : (r >>= k).Balances := by
  intro w stays
  obtain ⟨inner, rest⟩ := (stays_bind r k w).1 stays
  have grown := first w inner
  rw [exec_bind]
  cases found : (r.exec w).1 with
  | error e => exact grown
  | ok a =>
    have later := (rest a found).mono fun v same => (same.trans grown.loaded.symm)
    exact grown.trans (second a _ later)

end Run

end EmbeddedPython
