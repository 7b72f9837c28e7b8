import EmbeddedPython.Proofs.Calls.Sessions

/-!
# The arguments of a call

What a table is checked for before its first row becomes the arguments of a call
(`Table.arguments_are_checked`): the check tells exactly which tables can be used, the
interpreter takes every value of a row that passed it, and a table that did not pass it
never reaches the interpreter.
-/

namespace EmbeddedPython.Table

/-- What is promised of the check of tables and of the conversion behind it. -/
structure ArgumentsChecked : Prop where
  /-- A table without rows has no row to check. -/
  none : ∀ t : Table, t.argumentRow = .ok none ↔ t.rows = []
  /-- The first row is accepted if it is as wide as the table and each of its cells
  suits its column. -/
  accepts : ∀ (t : Table) (row : List Cell), t.argumentRow = .ok (some row) ↔
    t.rows.head? = some row ∧ row.length = t.columns.length ∧
      ∀ place, SuitsAt t.columns row place
  /-- Otherwise the width is told of, or else the first cell that does not suit. -/
  rejects : ∀ (t : Table) (fault : Fault), t.argumentRow = .error fault ↔
    ∃ row, t.rows.head? = some row ∧
      (row.length ≠ t.columns.length ∧ fault = .width row.length t.columns.length ∨
        row.length = t.columns.length ∧ ∃ place, TellsAt t.columns row place fault)
  /-- Rows behind the first make no difference. -/
  first_row : ∀ (columns : List Column) (row : List Cell) (rest rest' : List (List Cell)),
    argumentRow ⟨columns, row :: rest⟩ = argumentRow ⟨columns, row :: rest'⟩ ∧
      converted ⟨columns, row :: rest⟩ = converted ⟨columns, row :: rest'⟩
  /-- There are no arguments without rows. -/
  empty : ∀ t : Table, t.rows = [] → t.converted = .ok []
  /-- Each cell of an accepted row is taken by the interpreter, and there is one
  argument for each column, in their order. -/
  converts : ∀ (t : Table) (row : List Cell), t.argumentRow = .ok (some row) →
    ∃ args, t.converted = .ok args ∧ args.length = t.columns.length ∧
      (∀ (place : Nat) (c : Cell), row[place]? = some c →
        ∃ v, convert c = .ok v ∧ args[place]? = some v) ∧
      ∀ s, (Work.argumentsOf (some t)).exec s = (.ok args, s.noting (some t))
  /-- Without a check of the years, the interpreter would refuse the others. -/
  years : ∀ t : DateTime,
    (∃ v, convert (.dateTime t) = .ok v) ↔ 1 ≤ t.year ∧ t.year ≤ 9999
  /-- A rejected table ends the call in what was told of it, and leaves the interpreter
  as it was. -/
  refuses : ∀ (t : Table) (fault : Fault), t.argumentRow = .error fault →
    t.converted = .error (.marshal fault) ∧ ∀ s,
      (Work.argumentsOf (some t)).exec s =
        (.error (.error (.marshal fault)), s.noting (some t)) ∧
      (s.noting (some t)).engine = s.engine

/-- The arguments of an accepted row are the values of its cells. -/
theorem converted_of_accepted {t : Table} {row : List Cell}
    (h : t.argumentRow = .ok (some row)) : t.converted = .ok (row.map valueOf) := by
  rw [converted_eq, (arguments_of_accepted h).1]
  rfl

theorem converted_of_rejected {t : Table} {fault : Fault} (h : t.argumentRow = .error fault) :
    t.converted = .error (.marshal fault) := by
  rw [converted, h]
  rfl

theorem exec_argumentsOf_some (t : Table) (s : Session) :
    (Work.argumentsOf (some t)).exec s = (t.converted.mapError .error, s.noting (some t)) := by
  rw [Work.argumentsOf, Work.exec_bind_ok (Work.exec_changeMachine _ s), Work.exec_ofExcept]
  rfl

theorem arguments_are_checked : ArgumentsChecked where
  none _ := argumentRow_eq_none_iff
  accepts _ _ := argumentRow_eq_some_iff
  rejects _ _ := argumentRow_eq_error_iff
  first_row columns row rest rest' := by
    have same : argumentRow ⟨columns, row :: rest⟩ = argumentRow ⟨columns, row :: rest'⟩ := rfl
    exact ⟨same, by rw [converted, converted, same]⟩
  empty t none := by
    rw [converted, argumentRow_eq_none_iff.mpr none]
    rfl
  converts t row accepted := by
    have converted := converted_of_accepted accepted
    obtain ⟨-, wide, -⟩ := argumentRow_eq_some_iff.mp accepted
    obtain ⟨-, isArgument⟩ := arguments_of_accepted accepted
    refine ⟨row.map valueOf, converted, by rw [List.length_map, wide], fun place c found => ?_,
      fun s => by rw [exec_argumentsOf_some, converted]; rfl⟩
    refine ⟨valueOf c, convert_eq_ok_iff.mpr ⟨?_, rfl⟩, by rw [List.getElem?_map, found]; rfl⟩
    exact isArgument c (List.mem_of_getElem? found)
  years t := by
    rw [← isYear_iff]
    constructor
    · rintro ⟨v, converted⟩
      exact (convert_eq_ok_iff.mp converted).1
    · intro inYears
      exact ⟨_, convert_eq_ok_iff.mpr ⟨inYears, rfl⟩⟩
  refuses t fault rejected := by
    have refused := converted_of_rejected rejected
    refine ⟨refused, fun s => ⟨?_, s.engine_noting _⟩⟩
    rw [exec_argumentsOf_some, refused]
    rfl

end EmbeddedPython.Table
