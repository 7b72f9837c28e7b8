import EmbeddedPython.Proofs.Calls.Definitions
import EmbeddedPython.Proofs.Calls.Quiet
import EmbeddedPython.Proofs.Engine.Hidden

/-!
# Functions that are called through an alias

Each name of a source is there twice when a function of it is called: in the scope of
the source, and in the copy that the function is called through.  This is about which
of the two counts.  The function is found in the copy, but what it does has nothing to
do with the copy (`Leaves.hides`), since nothing that a source leaves refers to a home
that is given away later (`Leaves.knows`).
-/

namespace EmbeddedPython.Scope

open Work

section

variable {s : Session} {source : Source} {program : List Statement} {u : Workspace}
  {ns : Namespace}

/-! ## What the function sees -/

/-- All homes but those of the calling scope and of the copy. -/
def Apart (s : Session) (u : Workspace) (home : Home) : Prop :=
  home ≠ (caller (defined s u)).home ∧ home ≠ copyHome (defined s u)

theorem apart_of_has {home : Home} (has : u.engine.Has home) : Apart s u home := by
  constructor
  · rintro rfl
    exact u.engine.not_has_fresh has
  · rintro rfl
    exact Engine.not_has_fresh _ (Engine.has_allocate.2 (.inl has))

theorem Leaves.apart_of_le (h : Leaves s source program u ns) {home : Home}
    (le : home.index ≤ (definitions s).home.index) : Apart s u home := by
  have first : (definitions s).home.index < u.engine.fresh.index :=
    Engine.Has.index_lt ⟨ns, h.names⟩
  have second : u.engine.fresh.index < (copyHome (defined s u)).index :=
    Engine.Has.index_lt (Engine.has_allocate.2 (.inr rfl))
  have below {other : Home} (lt : home.index < other.index) : home ≠ other := by
    rintro rfl
    exact Nat.lt_irrefl _ lt
  exact ⟨below (show home.index < u.engine.fresh.index by omega), below (by omega)⟩

theorem Leaves.apart_everywhere (h : Leaves s source program u ns) :
    Apart s u Engine.everywhere :=
  h.apart_of_le (Nat.zero_le _)

theorem known_initialNames {H : Horizon} (everywhere : H.KnowsHome Engine.everywhere)
    (name : String) : (initialNames name).Known H := by
  refine .ofList fun d there => ?_
  simp only [List.mem_cons, List.not_mem_nil, or_false] at there
  rcases there with rfl | rfl
  · exact everywhere
  · exact H.isKind.inert rfl

/-- What a source leaves in a tidy session. -/
structure Settled (s : Session) (u : Workspace) : Prop where
  anchored : u.engine.Anchored
  kept : ∀ home, s.engine.Has home → u.engine.Has home
  bare : ¬u.engine.Loads (definitions s).home
  known : u.engine.Known
    (.of fun home => home.index ≤ (definitions s).home.index ∨ u.engine.Has home)

theorem Leaves.settled (h : Leaves s source program u ns) (tidy : s.engine.Tidy) :
    Settled s u := by
  have anchored : (opened s definitionName).inner.engine.Anchored := tidy.anchored.allocate _
  have anchors : (Run.runProgram s.engine.fresh program).AnchorsAt
      (opened s definitionName).inner :=
    Run.isStepwise_anchors.closed.runProgram trivial program _ anchored
  have known := Run.known_of_anchorsAt anchors
    (tidy.known.allocate (known_initialNames (Nat.zero_le _) definitionName))
    (Run.isStepwise_staysWithin.closed.runProgram (.inl (Nat.le_refl _)) program)
  have last := anchors.last
  obtain ⟨keeps, stays⟩ := anchors
  have spans := stays.last
  rw [h.runs] at known last keeps spans
  refine ⟨last, fun home has => keeps home (Engine.has_allocate.2 (.inl has)), fun loads => ?_,
    known⟩
  have before : s.engine.Loads s.engine.fresh :=
    spans.old _ loads (Engine.has_allocate.2 (.inr rfl))
  exact s.engine.not_has_fresh (tidy.anchored _ before)

/-- A source knows nothing of the scope that its functions are called from. -/
theorem Leaves.knows (h : Leaves s source program u ns) (tidy : s.engine.Tidy) :
    u.engine.Known (.of (Apart s u)) :=
  (h.settled tidy).known.widen fun _ known => known.elim h.apart_of_le apart_of_has

/-- What a call finds, if it does not come from the calling scope. -/
theorem Leaves.sees (h : Leaves s source program u ns) (tidy : s.engine.Tidy) (function : String)
    (params : Option Table) :
    (calling s u ns function params).engine.Known (.at (Apart s u) h.apart_everywhere) ∧
      (calling s u ns function params).engine.Hides (Apart s u) := by
  rw [engine_calling]
  have known := h.knows tidy
  refine ⟨⟨fun home other apart there => ?_, known.loaded⟩, fun home hidden => ?_⟩
  · have same : (lent (defined s u) (definitions s) (crossed ns)).engine.space? home =
        u.engine.space? home :=
      (space?_imported_of_ne apart.1 apart.2).trans (Engine.space?_allocate_of_ne _ apart.1 _)
    obtain ⟨entries, codes⟩ := known.spaces home other trivial (same ▸ there)
    exact ⟨entries, codes⟩
  · rcases not_and_or.1 hidden with caller | copy
    · obtain rfl := not_not.1 caller
      obtain ⟨names, there, -⟩ := Option.bind_eq_some_iff.1 h.lends.bound
      exact ⟨names, there⟩
    · obtain rfl := not_not.1 copy
      exact ⟨_, h.lends.copy⟩

/-- What a function of the source does has nothing to do with what is bound in the
calling scope or in the copy. -/
theorem Leaves.hides (h : Leaves s source program u ns) (tidy : s.engine.Tidy)
    {params : Option Table} (accepted : ∀ t, params = some t → ∃ row, t.argumentRow = .ok row)
    (function : String) {v : Value} (mine : ∀ K, ns.Known (.of K) → v.Within K) :
    Run.HidesAt (.value : (Horizon.at _ h.apart_everywhere).Post Value)
      (Run.call v (Table.firstArguments params)) (calling s u ns function params).inner := by
  obtain ⟨known, hides⟩ := h.sees tidy function params
  have inert := Table.inert_argumentsIn _ (Table.argumentsIn_of_accepted accepted)
  refine Run.isStepwise_hides.closed.call ?_ (fun a there => ?_) _ known hides
  · exact mine _ ((h.knows tidy).spaces _ ns trivial h.names)
  · exact Value.within_of_isInert (inert a there)

/-! ## What is left of a call -/

end

namespace Alias

/-- A source that binds the name of the alias, a name twice, and one that counts. -/
def counts : Source :=
  .text ("ds = 1\nn = 40\n\ndef _step():\n    return 2\n\ndef f():\n    return 0\n\n"
    ++ "def f():\n    global n\n    n += _step()\n    return n\n")

/-- An interpreter that was just started. -/
def session : Session := ⟨⟨⟨[], []⟩, [], Log.initial, "", ⟨"", "", 0⟩⟩, .initial ""⟩

def program : List Statement := counts.compile.toOption.getD []

/-- What the source leaves. -/
def left : Except Raised Unit × Workspace :=
  (Run.runProgram session.engine.fresh program).exec (opened session definitionName).inner

def names : Namespace := (left.2.engine.space? (definitions session).home).getD .empty

theorem leaves : Leaves session counts program left.2 names := by
  have compiles : counts.compile.isOk := by decide +kernel
  have runs : left.1.isOk := by decide +kernel
  have there : (left.2.engine.space? (definitions session).home).isSome := by decide +kernel
  have texts : names.entries.all fun entry => entry.1.name?.isSome := by decide +kernel
  have ran : left = (.ok (), left.2) := by
    generalize left = ended at runs ⊢
    obtain ⟨_ | _, _⟩ := ended
    · cases runs
    · rfl
  refine ⟨?_, ran, ?_, fun entry isEntry => ?_⟩
  · unfold program
    generalize counts.compile = compiled at compiles ⊢
    cases compiled with
    | ok program => rfl
    | error fault => cases compiles
  · unfold names
    generalize left.2.engine.space? (definitions session).home = found at there ⊢
    obtain _ | ns := found
    · cases there
    · rfl
  · have named := List.all_eq_true.mp texts entry isEntry
    cases key : entry.1 with
    | name name => exact ⟨name, rfl⟩
    | broken | other _ =>
      rw [key] at named
      cases named

end Alias

end EmbeddedPython.Scope
