import EmbeddedPython.Proofs.Calls.Arguments
import EmbeddedPython.Proofs.Calls.Results

/-!
# Functions of a source

The source of a call runs in a scope of its own, and leaves names there (`Leaves`).
Another scope calls a function of it through a module that these names were copied to,
so what the name of the function stands for in the copy decides how the call goes on
(`exec_callNamed_eq`).
-/

namespace EmbeddedPython

/-- The arguments that a call gets from the first row of a table. -/
def Table.firstArguments (params : Option Table) : List Value :=
  ((params.bind fun t => t.rows.head?).getD []).map valueOf

theorem Table.argumentsIn_of_accepted {params : Option Table}
    (accepted : ∀ t, params = some t → ∃ row, t.argumentRow = .ok row) :
    argumentsIn params = .ok (firstArguments params) := by
  cases params with
  | none => rfl
  | some t =>
    obtain ⟨row, found⟩ := accepted t rfl
    have first : t.rows.head? = row := by
      cases row with
      | none => rw [argumentRow_eq_none_iff.mp found, List.head?_nil]
      | some row => exact (argumentRow_eq_some_iff.mp found).1
    show t.arguments = .ok ((t.rows.head?.getD []).map valueOf)
    rw [arguments, found, first]
    rfl

namespace Scope

open Work

/-! ## Names that cross over -/

/-- The names of a namespace that another scope gets. -/
def crossed (ns : Namespace) : List (Key × Value) :=
  ns.entries.filter fun entry => !(entry.1.name?.any isReserved)

theorem crossing_eq_filter {entries : List (Key × Value)}
    (texts : ∀ entry ∈ entries, ∃ name, entry.1 = .name name) :
    crossing entries = .ok (entries.filter fun entry => !(entry.1.name?.any isReserved)) := by
  induction entries with
  | nil => rfl
  | cons entry rest ih =>
    obtain ⟨key, v⟩ := entry
    obtain ⟨⟨name, same⟩, others⟩ := List.forall_mem_cons.1 texts
    obtain rfl : key = .name name := same
    rw [crossing, ih others, List.filter_cons]
    show Except.ok (if isReserved name then _ else _) =
      Except.ok (if (!isReserved name) = true then _ else _)
    cases isReserved name <;> rfl

section

variable {s : Session} {source : Source} {program : List Statement} {u : Workspace}
  {ns : Namespace}

/-- A source that runs in a scope of its own leaves names there, all of which are
texts. -/
structure Leaves (s : Session) (source : Source) (program : List Statement) (u : Workspace)
    (ns : Namespace) : Prop where
  compiles : source.compile = .ok program
  runs : (Run.runProgram s.engine.fresh program).exec (opened s definitionName).inner =
    (.ok (), u)
  names : u.engine.space? (definitions s).home = some ns
  texts : ∀ entry ∈ ns.entries, ∃ name, entry.1 = .name name

/-- The session in which the function is called, if there is one. -/
def calling (s : Session) (u : Workspace) (ns : Namespace) (function : String)
    (params : Option Table) : Session :=
  asked (defined s u) (definitions s) (crossed ns) function params (Table.firstArguments params)

theorem engine_calling (s : Session) (u : Workspace) (ns : Namespace) (function : String)
    (params : Option Table) :
    (calling s u ns function params).engine =
      (lent (defined s u) (definitions s) (crossed ns)).engine :=
  engine_asked _ _ _ _ _ _

/-- The session without the copy, the scope of the call and that of the
definitions. -/
def finished (s : Session) (u : Workspace) (ended : Session) : Session :=
  closed (closed (closed ended (copyHome (defined s u))) (caller (defined s u)).home)
    (definitions s).home

theorem Leaves.lends (h : Leaves s source program u ns) :
    Lends (defined s u) (definitions s) ns (crossed ns) := by
  obtain ⟨names, lends⟩ : ∃ names, Lends (defined s u) (definitions s) ns names :=
    exists_lends h.names h.texts
  have there : (opened (defined s u) callName).engine.space? (definitions s).home = some ns :=
    ((defined s u).engine.space?_allocate_of_ne (Engine.ne_fresh h.names) _).trans h.names
  have crosses := lends.crosses
  rw [there] at crosses
  obtain rfl : crossed ns = names :=
    Except.ok.inj ((crossing_eq_filter h.texts).symm.trans crosses)
  exact lends

end

end Scope

end EmbeddedPython
