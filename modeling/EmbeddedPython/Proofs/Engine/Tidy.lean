import EmbeddedPython.Proofs.Engine.Within

/-!
# Engines that are tidy

A home is given away again once its namespace is gone, so what refers to a namespace
that is gone may come to refer to another one.  In a tidy engine nothing is of a home
that is still to be given away, except for the very next one: a function that was
stored in a module by the program of a scope outlives its globals.
-/

namespace EmbeddedPython.Engine

theorem Has.index_lt {e : Engine} {home : Home} (h : e.Has home) :
    home.index < e.fresh.index := by
  obtain ⟨ns, there⟩ := h
  exact (index_lt_foldl e.spaces 0).2 _ (Lookup.mem_of_lookup there)

/-- Nothing in an engine is of a home that is still to be given away, except for the
next one. -/
structure Tidy (e : Engine) : Prop where
  anchored : e.Anchored
  known : e.Known (.of fun home => home.index ≤ e.fresh.index)

end EmbeddedPython.Engine
