import EmbeddedPython.Proofs.Marshal.Arguments
import Mathlib.Data.List.Induction
import Mathlib.Data.List.Infix

/-!
# How tables are built

A table starts empty or as a single row, and then takes steps: columns and rows are
added, and a row of the wrong width is refused.  Columns are never taken away, and the
width of a row is compared only when it is added, so a column that comes later leaves
the rows behind.

* `Table.InOrder` is the invariant of the steps: no row is wider than the table is now,
  or than any row behind it.
* `Table.isBehind_iff` finds the column that left the first row behind.
* `Table.built_tables` collects what a table tells of its history.
-/

namespace EmbeddedPython.Table

/-! ## Adding a row -/

section Rows

variable {t : Table} {row : List Cell}

theorem run_pushRow_of_eq (h : row.length = t.columns.length) :
    (pushRow row).run.run t = (.ok (), { t with rows := t.rows ++ [row] }) := by
  have wide : t.checkWidth row = .ok () := checkWidth_eq_ok_iff.mpr h
  show (ExceptT.run (do ExceptT.mk (pure (t.checkWidth row)); _) : StateM Table _).run t = _
  rw [wide]
  rfl

theorem run_pushRow_of_ne (h : row.length ≠ t.columns.length) :
    (pushRow row).run.run t = (.error (.width row.length t.columns.length), t) := by
  have other : t.checkWidth row = .error _ := checkWidth_of_ne h
  show (ExceptT.run (do ExceptT.mk (pure (t.checkWidth row)); _) : StateM Table _).run t = _
  rw [other]
  rfl

theorem addRow_of_eq (h : row.length = t.columns.length) :
    t.addRow row = .ok { t with rows := t.rows ++ [row] } := by
  rw [addRow, run_pushRow_of_eq h]
  rfl

theorem addRow_of_ne (h : row.length ≠ t.columns.length) :
    t.addRow row = .error (.width row.length t.columns.length) := by
  rw [addRow, run_pushRow_of_ne h]
  rfl

/-- A row that is refused in place leaves the table as it was. -/
theorem eq_of_run_pushRow_error {t' : Table} {fault : Fault}
    (h : (pushRow row).run.run t = (.error fault, t')) :
    t' = t ∧ row.length ≠ t.columns.length ∧ fault = .width row.length t.columns.length := by
  by_cases wide : row.length = t.columns.length
  · rw [run_pushRow_of_eq wide] at h
    cases h
  · rw [run_pushRow_of_ne wide] at h
    obtain ⟨same, rfl⟩ := Prod.mk.inj h
    exact ⟨rfl, wide, (Except.error.inj same).symm⟩

end Rows

/-! ## Steps -/

/-- A step of building a table. -/
inductive Step where
  | column (name : String) (type : ColumnType)
  /-- A row is added in place. -/
  | push (row : List Cell)
  /-- The table is given away for one with a row more. -/
  | append (row : List Cell)
deriving Repr, DecidableEq

/-- The table after a step.  A table that was given away is lost when the row is
refused. -/
def Step.run : Step → Table → Option Table
  | column name type, t => some (t.addColumn name type)
  | push row, t => some ((pushRow row).run.run t).2
  | append row, t => (t.addRow row).toOption

/-- The table after some steps. -/
def build (start : Table) (steps : List Step) : Option Table :=
  steps.foldlM (fun t step => step.run t) start

/-- A table to start with. -/
inductive IsStart : Table → Prop
  | empty : IsStart empty
  | ofRow (cells : List (String × Cell)) : IsStart (ofRow cells)

/-- The step adds this row, if it has the width of the table. -/
inductive Step.Adds (row : List Cell) : Step → Prop
  | push : Adds row (push row)
  | append : Adds row (append row)

/-- What a step does to a table: it adds a column, it adds a row that is as wide as the
table, or it leaves the table as it was. -/
inductive Step.Does (t : Table) : Step → Table → Prop
  | column (name : String) (type : ColumnType) : Does t (column name type) (t.addColumn name type)
  | row {step : Step} {row : List Cell} (adds : step.Adds row)
      (wide : row.length = t.columns.length) : Does t step { t with rows := t.rows ++ [row] }
  | refused {row : List Cell} (other : row.length ≠ t.columns.length) : Does t (push row) t

theorem Step.does_of_run {step : Step} {t t' : Table} (h : step.run t = some t') :
    step.Does t t' := by
  cases step with
  | column name type =>
    obtain rfl := Option.some.inj h
    exact .column name type
  | push row =>
    obtain rfl := Option.some.inj h
    by_cases wide : row.length = t.columns.length
    · rw [run_pushRow_of_eq wide]
      exact .row .push wide
    · rw [run_pushRow_of_ne wide]
      exact .refused wide
  | append row =>
    by_cases wide : row.length = t.columns.length
    · rw [run, addRow_of_eq wide] at h
      obtain rfl := Option.some.inj h
      exact .row .append wide
    · rw [run, addRow_of_ne wide] at h
      cases h

theorem build_concat (start : Table) (steps : List Step) (step : Step) :
    build start (steps ++ [step]) = (build start steps).bind step.run := by
  simp [build, List.foldlM_append]

theorem build_concat_eq_some {start t' : Table} {steps : List Step} {step : Step}
    (h : build start (steps ++ [step]) = some t') :
    ∃ t, build start steps = some t ∧ step.Does t t' := by
  rw [build_concat] at h
  obtain ⟨t, built, run⟩ := Option.bind_eq_some_iff.mp h
  exact ⟨t, built, Step.does_of_run run⟩

/-- On the way through some steps, this one was taken on the table `u`. -/
def Took (start : Table) (steps : List Step) (step : Step) (u : Table) : Prop :=
  ∃ front, front ++ [step] <+: steps ∧ build start front = some u

section History

variable {start t t' u : Table} {steps : List Step} {step last : Step} {row : List Cell}

theorem not_took_nil : ¬Took start [] step u := by
  rintro ⟨front, isPrefix, -⟩
  simp at isPrefix

theorem took_concat_iff :
    Took start (steps ++ [last]) step u ↔
      Took start steps step u ∨ step = last ∧ build start steps = some u := by
  constructor
  · rintro ⟨front, isPrefix, built⟩
    rcases List.prefix_concat_iff.mp isPrefix with whole | earlier
    · obtain ⟨rfl, same⟩ := List.append_inj' whole rfl
      exact .inr ⟨List.singleton_inj.mp same, built⟩
    · exact .inl ⟨front, earlier, built⟩
  · rintro (⟨front, earlier, built⟩ | ⟨rfl, built⟩)
    · exact ⟨front, earlier.trans (List.prefix_append _ _), built⟩
    · exact ⟨steps, List.prefix_refl _, built⟩

/-! ## Widths -/

/-- No row is wider than the table, or than a row behind it. -/
structure InOrder (t : Table) : Prop where
  within : ∀ row ∈ t.rows, row.length ≤ t.columns.length
  ascending : (t.rows.map List.length).Pairwise (· ≤ ·)

theorem IsStart.wide (h : IsStart start) :
    ∀ row ∈ start.rows, row.length = start.columns.length := by
  cases h with
  | empty => exact nofun
  | ofRow cells =>
    intro row mem
    obtain rfl := List.mem_singleton.mp mem
    simp [Table.ofRow]

theorem IsStart.inOrder (h : IsStart start) : InOrder start := by
  refine ⟨fun row mem => Nat.le_of_eq (h.wide row mem), ?_⟩
  cases h with
  | empty => exact .nil
  | ofRow cells => exact List.pairwise_singleton _ _

theorem Step.Does.inOrder (does : step.Does t t') (h : InOrder t) : InOrder t' := by
  cases does with
  | column name type =>
    refine ⟨fun row mem => ?_, h.ascending⟩
    have before := h.within row mem
    show row.length ≤ (t.columns ++ [_]).length
    rw [List.length_append]
    omega
  | @row _ row _ wide =>
    refine ⟨fun other mem => ?_, ?_⟩
    · rcases List.mem_append.mp mem with mem | mem
      · exact h.within other mem
      · obtain rfl := List.mem_singleton.mp mem
        exact Nat.le_of_eq wide
    · show ((t.rows ++ [row]).map List.length).Pairwise _
      rw [List.map_append, List.pairwise_append]
      refine ⟨h.ascending, List.pairwise_singleton _ _, fun n mem m last => ?_⟩
      obtain ⟨other, inRows, rfl⟩ := List.mem_map.mp mem
      obtain rfl := List.mem_singleton.mp last
      have before := h.within other inRows
      omega
  | refused _ => exact h

theorem inOrder_of_build (h : InOrder start) (built : build start steps = some t) : InOrder t := by
  induction steps using List.reverseRecOn generalizing t with
  | nil =>
    obtain rfl := Option.some.inj built
    exact h
  | append_singleton steps step ih =>
    obtain ⟨u, built', does⟩ := build_concat_eq_some built
    exact does.inOrder (ih built')

/-- A row is there from the start, or a step added it as the next one, and it is as wide
as the table was then. -/
theorem added_of_build (h : IsStart start) (built : build start steps = some t) {place : Nat}
    (found : t.rows[place]? = some row) :
    start.rows[place]? = some row ∧ row.length = start.columns.length ∨
      ∃ u step, Took start steps step u ∧ step.Adds row ∧ u.rows.length = place ∧
        row.length = u.columns.length := by
  induction steps using List.reverseRecOn generalizing t with
  | nil =>
    obtain rfl := Option.some.inj built
    exact .inl ⟨found, h.wide row (List.mem_of_getElem? found)⟩
  | append_singleton steps last ih =>
    obtain ⟨u, built', does⟩ := build_concat_eq_some built
    have earlier (there : u.rows[place]? = some row) :
        start.rows[place]? = some row ∧ row.length = start.columns.length ∨
          ∃ u step, Took start (steps ++ [last]) step u ∧ step.Adds row ∧
            u.rows.length = place ∧ row.length = u.columns.length := by
      rcases ih built' there with first | ⟨v, step, took, others⟩
      · exact .inl first
      · exact .inr ⟨v, step, took_concat_iff.mpr (.inl took), others⟩
    cases does with
    | column name type => exact earlier found
    | @row _ added adds wide =>
      rcases Nat.lt_trichotomy place u.rows.length with less | rfl | more
      · rw [List.getElem?_append_left less] at found
        exact earlier found
      · rw [List.getElem?_concat_length] at found
        obtain rfl := Option.some.inj found
        exact .inr ⟨u, last, took_concat_iff.mpr (.inr ⟨rfl, built'⟩), adds, rfl, wide⟩
      · have beyond : (u.rows ++ [added]).length ≤ place := by
          rw [List.length_append, List.length_singleton]
          omega
        rw [List.getElem?_eq_none beyond] at found
        cases found
    | refused _ => exact earlier found

/-! ## Rows that are left behind -/

/-- The table has grown wider than its first row. -/
def IsBehind (t : Table) : Prop :=
  ∃ row, t.rows.head? = some row ∧ row.length < t.columns.length

theorem InOrder.width_fault_iff (h : InOrder t) :
    (∃ values columns, t.argumentRow = .error (.width values columns)) ↔ IsBehind t := by
  constructor
  · rintro ⟨values, columns, failed⟩
    obtain ⟨row, first, ⟨other, -⟩ | ⟨-, place, ⟨column, c, -, -, tells⟩, -⟩⟩ :=
      argumentRow_eq_error_iff.mp failed
    · have most := h.within row (List.mem_of_mem_head? first)
      exact ⟨row, first, by omega⟩
    · cases tells
  · rintro ⟨row, first, less⟩
    exact ⟨_, _, argumentRow_eq_error_iff.mpr ⟨row, first, .inl ⟨by omega, rfl⟩⟩⟩

/-- A column leaves the first row behind, and nothing makes up for it. -/
theorem Step.Does.isBehind_iff (does : step.Does t t') (h : InOrder t) :
    IsBehind t' ↔ IsBehind t ∨ (∃ name type, step = .column name type) ∧ t.rows ≠ [] := by
  obtain ⟨columns, rows⟩ := t
  cases does with
  | column name type =>
    cases rows with
    | nil =>
      refine iff_of_false (fun ⟨_, first, _⟩ => nomatch first) ?_
      rintro (⟨_, first, _⟩ | ⟨-, nonempty⟩)
      · cases first
      · exact nonempty rfl
    | cons first rest =>
      refine iff_of_true ⟨first, rfl, ?_⟩ (.inr ⟨⟨name, type, rfl⟩, List.cons_ne_nil _ _⟩)
      have most : first.length ≤ columns.length := h.within first List.mem_cons_self
      show first.length < (columns ++ [_]).length
      rw [List.length_append, List.length_singleton]
      omega
  | @row _ row adds wide =>
    have noColumn : ¬∃ name type, step = .column name type := by
      rintro ⟨name, type, rfl⟩
      cases adds
    simp only [noColumn, false_and, or_false]
    cases rows with
    | nil =>
      -- The row is the first one, and as wide as the table.
      refine iff_of_false ?_ fun ⟨_, first, _⟩ => nomatch first
      rintro ⟨other, first, less⟩
      obtain rfl : row = other := Option.some.inj first
      have same : row.length = columns.length := wide
      have less : row.length < columns.length := less
      omega
    | cons first rest => exact Iff.rfl
  | refused other => simp

theorem isBehind_iff (h : IsStart start) (built : build start steps = some t) :
    IsBehind t ↔ ∃ name type u, Took start steps (.column name type) u ∧ u.rows ≠ [] := by
  induction steps using List.reverseRecOn generalizing t with
  | nil =>
    obtain rfl := Option.some.inj built
    refine iff_of_false ?_ fun ⟨_, _, _, took, _⟩ => not_took_nil took
    rintro ⟨row, first, less⟩
    have wide := h.wide row (List.mem_of_mem_head? first)
    omega
  | append_singleton steps last ih =>
    obtain ⟨u, built', does⟩ := build_concat_eq_some built
    rw [does.isBehind_iff (inOrder_of_build h.inOrder built'), ih built']
    constructor
    · rintro (⟨name, type, v, took, nonempty⟩ | ⟨⟨name, type, rfl⟩, nonempty⟩)
      · exact ⟨name, type, v, took_concat_iff.mpr (.inl took), nonempty⟩
      · exact ⟨name, type, u, took_concat_iff.mpr (.inr ⟨rfl, built'⟩), nonempty⟩
    · rintro ⟨name, type, v, took, nonempty⟩
      rcases took_concat_iff.mp took with earlier | ⟨same, built''⟩
      · exact .inl ⟨name, type, v, earlier, nonempty⟩
      · obtain rfl := Option.some.inj (built'.symm.trans built'')
        exact .inr ⟨⟨name, type, same.symm⟩, nonempty⟩

theorem isBehind_of_build (h : InOrder start) (behind : IsBehind start)
    (built : build start steps = some t) : IsBehind t := by
  induction steps using List.reverseRecOn generalizing t with
  | nil =>
    obtain rfl := Option.some.inj built
    exact behind
  | append_singleton steps last ih =>
    obtain ⟨u, built', does⟩ := build_concat_eq_some built
    exact (does.isBehind_iff (inOrder_of_build h built')).mpr (.inl (ih built'))

/-! ## Single rows -/

/-- A single row is rejected for its dates, and for nothing else. -/
theorem argumentRow_ofRow_eq_error_iff {cells : List (String × Cell)} :
    (∃ fault, (ofRow cells).argumentRow = .error fault) ↔
      ∃ d, Cell.dateTime d ∈ cells.map Prod.snd ∧ ¬(1 ≤ d.year ∧ d.year ≤ 9999) := by
  constructor
  · rintro ⟨fault, failed⟩
    by_contra none
    have isArgument : ∀ c ∈ cells.map Prod.snd, c.IsArgument := by
      intro c mem
      cases c with
      | dateTime d =>
        by_contra outside
        exact none ⟨d, mem, fun inside => outside (isYear_iff.mpr inside)⟩
      | _ => trivial
    rw [argumentRow_ofRow isArgument] at failed
    cases failed
  · rintro ⟨d, mem, outside⟩
    cases checked : (ofRow cells).argumentRow with
    | error fault => exact ⟨fault, rfl⟩
    | ok found =>
      cases found with
      | none => cases argumentRow_eq_none_iff.mp checked
      | some row =>
        obtain ⟨first, -⟩ := argumentRow_eq_some_iff.mp checked
        obtain rfl := Option.some.inj first
        have inside : (Cell.dateTime d).IsArgument := (arguments_of_accepted checked).2 _ mem
        exact absurd (isYear_iff.mp inside) outside

/-- Rows behind the first leave the columns and the first row as they were. -/
theorem ofRow_of_build {cells : List (String × Cell)} (built : build (ofRow cells) steps = some t)
    (rows : ∀ step ∈ steps, ∃ row, step.Adds row) :
    ∃ rest, t = ⟨(ofRow cells).columns, cells.map Prod.snd :: rest⟩ := by
  induction steps using List.reverseRecOn generalizing t with
  | nil =>
    obtain rfl := Option.some.inj built
    exact ⟨[], rfl⟩
  | append_singleton steps last ih =>
    obtain ⟨u, built', does⟩ := build_concat_eq_some built
    obtain ⟨rest, rfl⟩ := ih built' fun step mem => rows step (List.mem_append_left _ mem)
    cases does with
    | column name type =>
      obtain ⟨row, adds⟩ := rows _ (List.mem_append_right _ List.mem_cons_self)
      cases adds
    | @row _ row _ _ => exact ⟨rest ++ [row], rfl⟩
    | refused _ => exact ⟨rest, rfl⟩

/-! ## What a table tells of its history -/

/-- What is known of a table that was built in some steps. -/
structure History (start : Table) (steps : List Step) (t : Table) : Prop where
  /-- Each row has the width that the table had when the row was added. -/
  added : ∀ (place : Nat) (row : List Cell), t.rows[place]? = some row →
    start.rows[place]? = some row ∧ row.length = start.columns.length ∨
      ∃ u step, Took start steps step u ∧ step.Adds row ∧ u.rows.length = place ∧
        row.length = u.columns.length
  /-- No row is wider than the table. -/
  within : ∀ row ∈ t.rows, row.length ≤ t.columns.length
  /-- No row is wider than one behind it. -/
  ascending : (t.rows.map List.length).Pairwise (· ≤ ·)
  /-- A row that is refused in place leaves columns and rows as they were. -/
  refused : ∀ (row : List Cell) (fault : Fault) (t' : Table),
    (pushRow row).run.run t = (.error fault, t') → t'.columns = t.columns ∧ t'.rows = t.rows
  /-- The width is at fault exactly if a column was added to a table with rows. -/
  behind : (∃ values columns, t.argumentRow = .error (.width values columns)) ↔
    ∃ name type u, Took start steps (.column name type) u ∧ u.rows ≠ []
  /-- No further step makes up for that. -/
  stays : (∃ values columns, t.argumentRow = .error (.width values columns)) →
    ∀ more t', build t more = some t' →
      ∃ values columns, t'.argumentRow = .error (.width values columns)
  /-- A single row with any rows behind it is rejected exactly for a date in the first
  row that is outside the years of the interpreter. -/
  single : ∀ cells, start = ofRow cells → (∀ step ∈ steps, ∃ row, step.Adds row) →
    t.rows.head? = some (cells.map Prod.snd) ∧
      ((∃ fault, t.argumentRow = .error fault) ↔
        ∃ d, Cell.dateTime d ∈ cells.map Prod.snd ∧ ¬(1 ≤ d.year ∧ d.year ≤ 9999))

theorem built_tables (h : IsStart start) (built : build start steps = some t) :
    History start steps t := by
  have inOrder := inOrder_of_build h.inOrder built
  refine
    { added := fun place row found => added_of_build h built found
      within := inOrder.within
      ascending := inOrder.ascending
      refused := fun row fault t' failed => ?_
      behind := inOrder.width_fault_iff.trans (isBehind_iff h built)
      stays := fun failed more t' further => ?_
      single := fun cells same rows => ?_ }
  · obtain ⟨rfl, -⟩ := eq_of_run_pushRow_error failed
    exact ⟨rfl, rfl⟩
  · have behind := isBehind_of_build inOrder (inOrder.width_fault_iff.mp failed) further
    exact (inOrder_of_build inOrder further).width_fault_iff.mpr behind
  · subst same
    obtain ⟨rest, rfl⟩ := ofRow_of_build built rows
    rw [argumentRow_cons]
    exact ⟨rfl, argumentRow_ofRow_eq_error_iff⟩

/-- A row is refused, then a column comes, then rows of the new width. -/
theorem wider_table_is_behind :
    let steps : List Step := [.push [], .column "b" .int, .append [.int 2, .null], .push [.null]]
    let t : Table := ⟨[⟨"a", .int⟩, ⟨"b", .int⟩], [[.int 1], [.int 2, .null]]⟩
    build (ofRow [("a", .int 1)]) steps = some t ∧
      History (ofRow [("a", .int 1)]) steps t := by
  intro steps t
  have built : build (ofRow [("a", .int 1)]) steps = some t := by decide
  exact ⟨built, built_tables (.ofRow _) built⟩

end History

end EmbeddedPython.Table
