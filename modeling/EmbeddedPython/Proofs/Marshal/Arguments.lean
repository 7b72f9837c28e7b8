import EmbeddedPython.Proofs.Marshal.Conversion
import EmbeddedPython.Work
import Mathlib.Tactic.IntervalCases

/-!
# The check of arguments

A row is accepted exactly if it is as wide as its table and every cell suits its column
(`Table.argumentRow_eq_some_iff`).  Otherwise the width is told of first, and then the
first cell that does not suit (`Table.argumentRow_eq_error_iff`).

The constructor of dates takes exactly the dates in the years of the check
(`Table.convert_eq_ok_iff`), so it takes every row that is accepted
(`Table.mapM_convert`).
-/

namespace EmbeddedPython

open HostType (bind_eq_ok_iff map_eq_ok_iff mapM_eq_ok_iff)

/-! ## The constructor of dates -/

namespace Moment

theorem checkRange_eq_ok_iff {low high n : Int} {text : String} {a : Unit} :
    checkRange low high n text = .ok a ↔ low ≤ n ∧ n ≤ high := by
  unfold checkRange
  split
  · next inside => simpa using inside
  · next outside => simpa using outside

/-- The parts of a date that the constructor takes. -/
theorem make_eq_ok_iff {year month day hour minute second microsecond : Int} {m : Moment} :
    make year month day hour minute second microsecond = .ok m ↔
      (1 ≤ year ∧ year ≤ 9999) ∧ (1 ≤ month ∧ month ≤ 12) ∧
      (1 ≤ day ∧ day ≤ lastDay year month) ∧ (0 ≤ hour ∧ hour ≤ 23) ∧
      (0 ≤ minute ∧ minute ≤ 59) ∧ (0 ≤ second ∧ second ≤ 59) ∧
      (0 ≤ microsecond ∧ microsecond ≤ 999999) ∧
      m = .ofNumbers year month day hour minute second microsecond := by
  have last : (pure (ofNumbers year month day hour minute second microsecond) :
      Except Raised Moment) = .ok m ↔
        m = ofNumbers year month day hour minute second microsecond :=
    ⟨fun h => (Except.ok.inj h).symm, fun h => congrArg Except.ok h.symm⟩
  simp only [make, bind_eq_ok_iff, checkRange_eq_ok_iff, exists_const, last]

/-- The two calendars have the same days. -/
theorem lastDay_eq {year : Int} {month : Nat} (first : 1 ≤ month) (last : month ≤ 12) :
    lastDay year month = Calendar.daysIn year month := by
  have same : isLeap year = Calendar.isLeap year := rfl
  unfold lastDay
  rw [same]
  cases leap : Calendar.isLeap year <;> interval_cases month <;>
    simp [Calendar.daysIn, monthLengths, leap]

end Moment

namespace Calendar

/-- A day is in one of twelve months. -/
theorem month_of_isDay {year : Int} {month day : Nat} (h : isDay year month day) :
    1 ≤ month ∧ month ≤ 12 ∧ 1 ≤ day ∧ day ≤ daysIn year month := by
  obtain ⟨-, -, late, -⟩ := isDay_bounds h
  simp only [isDay, Bool.and_eq_true, decide_eq_true_eq] at h
  obtain ⟨⟨-, positive⟩, inMonth⟩ := h
  refine ⟨?_, late, positive, inMonth⟩
  by_contra zero
  obtain rfl : month = 0 := by omega
  have none : daysIn year 0 = 0 := rfl
  omega

end Calendar

namespace Table

/-! ## Cells in their columns -/

/-- A cell may stand in a column: the column has a conversion, the cell is null or of
the type of the column, and a date is in a year that the interpreter has. -/
structure Suits (column : Column) (c : Cell) : Prop where
  convertible : ∀ type, column.type ≠ .object type
  typed : c = .null ∨ c.columnType = column.type
  inYears : ∀ t, c = .dateTime t → 1 ≤ t.year ∧ t.year ≤ 9999

/-- What is told of a cell that may not stand in its column. -/
inductive Tells (column : Column) : Cell → Fault → Prop
  | unconvertible {c : Cell} {type : String} (h : column.type = .object type) :
      Tells column c (.unconvertible column.name type)
  | mistyped {c : Cell} (convertible : ∀ type, column.type ≠ .object type)
      (present : c ≠ .null) (other : c.columnType ≠ column.type) :
      Tells column c (.mistyped column.name column.type c)
  | outsideYears {t : DateTime} (same : column.type = .dateTime)
      (outside : ¬(1 ≤ t.year ∧ t.year ≤ 9999)) :
      Tells column (.dateTime t) (.outsideYears column.name t)

theorem isYear_iff {year : Int} : isYear year = true ↔ 1 ≤ year ∧ year ≤ 9999 := by
  simp [isYear]

theorem Cell.fits_iff {c : Cell} {type : ColumnType} :
    c.fits type = true ↔ c = .null ∨ c.columnType = type := by
  simp [Cell.fits]

variable {column : Column} {c : Cell} {fault : Fault}

/-- A cell suits its column, or there is one thing to tell. -/
theorem suits_or_tells (column : Column) (c : Cell) :
    checkCell column c = .ok () ∧ Suits column c ∨
      ∃ fault, checkCell column c = .error fault ∧ Tells column c fault := by
  unfold checkCell
  split
  · next type named => exact .inr ⟨_, rfl, .unconvertible named⟩
  · next convertible =>
    by_cases fits : c.fits column.type = true
    · rw [if_pos fits]
      have typed := Cell.fits_iff.mp fits
      split
      · next t =>
        by_cases inside : isYear t.year = true
        · rw [if_pos inside]
          refine .inl ⟨rfl, convertible, typed, fun u same => ?_⟩
          obtain rfl := Cell.dateTime.inj same
          exact isYear_iff.mp inside
        · rw [if_neg inside]
          have same : column.type = .dateTime := by
            rcases typed with none | same
            · cases none
            · exact same.symm
          exact .inr ⟨_, rfl, .outsideYears same fun inYears => inside (isYear_iff.mpr inYears)⟩
      · next undated => exact .inl ⟨rfl, convertible, typed, fun t same => absurd same (undated t)⟩
    · rw [if_neg fits]
      have neither := mt Cell.fits_iff.mpr fits
      rw [not_or] at neither
      exact .inr ⟨_, rfl, .mistyped convertible neither.1 neither.2⟩

theorem Tells.not_suits (h : Tells column c fault) : ¬Suits column c := by
  intro suits
  cases h with
  | unconvertible named => exact suits.convertible _ named
  | mistyped _ present other =>
    rcases suits.typed with none | same
    · exact present none
    · exact other same
  | outsideYears _ outside => exact outside (suits.inYears _ rfl)

/-- There is one thing to tell of a cell. -/
theorem Tells.unique {fault' : Fault} (one : Tells column c fault)
    (other : Tells column c fault') : fault = fault' := by
  cases one with
  | unconvertible named =>
    cases other with
    | unconvertible named' =>
      obtain rfl := ColumnType.object.inj (named.symm.trans named')
      rfl
    | mistyped convertible _ _ => exact absurd named (convertible _)
    | outsideYears same _ => cases named.symm.trans same
  | mistyped convertible present misfit =>
    cases other with
    | unconvertible named => exact absurd named (convertible _)
    | mistyped _ _ _ => rfl
    | outsideYears same _ => exact absurd same.symm misfit
  | outsideYears same _ =>
    cases other with
    | unconvertible named => cases named.symm.trans same
    | mistyped _ _ misfit => exact absurd same.symm misfit
    | outsideYears _ _ => rfl

theorem checkCell_eq_ok_iff : checkCell column c = .ok () ↔ Suits column c := by
  rcases suits_or_tells column c with ⟨passed, suits⟩ | ⟨fault, failed, tells⟩
  · exact iff_of_true passed suits
  · rw [failed]
    exact iff_of_false nofun tells.not_suits

theorem checkCell_eq_error_iff : checkCell column c = .error fault ↔ Tells column c fault := by
  rcases suits_or_tells column c with ⟨passed, suits⟩ | ⟨told, failed, tells⟩
  · rw [passed]
    exact iff_of_false nofun fun other => other.not_suits suits
  · rw [failed]
    exact ⟨fun same => Except.error.inj same ▸ tells, fun other => by rw [tells.unique other]⟩

/-! ## Rows -/

/-- The cell at a place suits the column at this place. -/
def SuitsAt (columns : List Column) (row : List Cell) (place : Nat) : Prop :=
  ∀ column c, columns[place]? = some column → row[place]? = some c → Suits column c

/-- The first cell of a row that does not suit its column is at this place. -/
def TellsAt (columns : List Column) (row : List Cell) (place : Nat) (fault : Fault) : Prop :=
  (∃ column c, columns[place]? = some column ∧ row[place]? = some c ∧ Tells column c fault) ∧
    ∀ before < place, SuitsAt columns row before

variable {columns : List Column} {row : List Cell}

theorem suitsAt_cons_zero : SuitsAt (column :: columns) (c :: row) 0 ↔ Suits column c :=
  ⟨fun suits => suits column c rfl rfl, fun suits _ _ hc hr => by
    obtain rfl := Option.some.inj hc
    obtain rfl := Option.some.inj hr
    exact suits⟩

/-- Every cell of a row suits its column, or there is a first one that does not. -/
theorem row_suits_or_tells (columns : List Column) (row : List Cell) :
    checkCells columns row = .ok () ∧ (∀ place, SuitsAt columns row place) ∨
      ∃ place fault, checkCells columns row = .error fault ∧ TellsAt columns row place fault := by
  induction columns generalizing row with
  | nil =>
    refine .inl ⟨rfl, fun _ _ _ none => ?_⟩
    cases none
  | cons column columns ih =>
    cases row with
    | nil =>
      refine .inl ⟨rfl, fun _ _ _ _ none => ?_⟩
      cases none
    | cons c row =>
      rw [checkCells]
      rcases suits_or_tells column c with ⟨passed, suits⟩ | ⟨fault, failed, tells⟩
      · rw [passed]
        rcases ih row with ⟨others, all⟩ | ⟨place, fault, failed, ⟨found, before⟩⟩
        · refine .inl ⟨others, fun place => ?_⟩
          cases place with
          | zero => exact suitsAt_cons_zero.mpr suits
          | succ place => exact all place
        · refine .inr ⟨place + 1, fault, failed, found, fun earlier less => ?_⟩
          cases earlier with
          | zero => exact suitsAt_cons_zero.mpr suits
          | succ earlier => exact before earlier (Nat.lt_of_succ_lt_succ less)
      · rw [failed]
        exact .inr ⟨0, fault, rfl, ⟨column, c, rfl, rfl, tells⟩,
          fun _ less => absurd less (Nat.not_lt_zero _)⟩

theorem TellsAt.not_suitsAt {place : Nat} (h : TellsAt columns row place fault) :
    ¬SuitsAt columns row place := by
  obtain ⟨⟨column, c, hc, hr, tells⟩, -⟩ := h
  exact fun suits => tells.not_suits (suits column c hc hr)

/-- There is one first place, and one thing to tell there. -/
theorem TellsAt.unique {place place' : Nat} {fault' : Fault}
    (one : TellsAt columns row place fault) (other : TellsAt columns row place' fault') :
    place = place' ∧ fault = fault' := by
  have same : place = place' := by
    rcases Nat.lt_trichotomy place place' with less | same | more
    · exact absurd (other.2 place less) one.not_suitsAt
    · exact same
    · exact absurd (one.2 place' more) other.not_suitsAt
  subst same
  obtain ⟨⟨column, c, hc, hr, tells⟩, -⟩ := one
  obtain ⟨⟨column', c', hc', hr', tells'⟩, -⟩ := other
  obtain rfl := Option.some.inj (hc.symm.trans hc')
  obtain rfl := Option.some.inj (hr.symm.trans hr')
  exact ⟨rfl, tells.unique tells'⟩

theorem checkCells_eq_ok_iff :
    checkCells columns row = .ok () ↔ ∀ place, SuitsAt columns row place := by
  rcases row_suits_or_tells columns row with ⟨passed, all⟩ | ⟨place, fault, failed, tells⟩
  · exact iff_of_true passed all
  · rw [failed]
    exact iff_of_false nofun fun all => tells.not_suitsAt (all place)

theorem checkCells_eq_error_iff :
    checkCells columns row = .error fault ↔ ∃ place, TellsAt columns row place fault := by
  rcases row_suits_or_tells columns row with ⟨passed, all⟩ | ⟨place, told, failed, tells⟩
  · rw [passed]
    exact iff_of_false nofun fun ⟨place, other⟩ => other.not_suitsAt (all place)
  · rw [failed]
    constructor
    · intro same
      exact ⟨place, Except.error.inj same ▸ tells⟩
    · rintro ⟨place', other⟩
      rw [(tells.unique other).2]

/-! ## Tables -/

theorem checkWidth_eq_ok_iff {t : Table} :
    t.checkWidth row = .ok () ↔ row.length = t.columns.length := by
  unfold checkWidth
  split
  · next wide => exact iff_of_true rfl wide
  · next other => exact iff_of_false nofun other

theorem checkWidth_of_ne {t : Table} (h : row.length ≠ t.columns.length) :
    t.checkWidth row = .error (.width row.length t.columns.length) := if_neg h

/-- Only the first row matters. -/
theorem argumentRow_cons (columns : List Column) (row : List Cell) (rest : List (List Cell)) :
    argumentRow ⟨columns, row :: rest⟩ = argumentRow ⟨columns, [row]⟩ := rfl

theorem argumentRow_single :
    argumentRow ⟨columns, [row]⟩ = (do
      checkWidth ⟨columns, [row]⟩ row
      checkCells columns row
      return some row) := rfl

theorem argumentRow_eq_none_iff {t : Table} : t.argumentRow = .ok none ↔ t.rows = [] := by
  obtain ⟨columns, rows⟩ := t
  cases rows with
  | nil => exact iff_of_true rfl rfl
  | cons row rest =>
    refine iff_of_false (fun none => ?_) nofun
    rw [argumentRow_cons, argumentRow_single] at none
    obtain ⟨-, -, none⟩ := bind_eq_ok_iff.mp none
    obtain ⟨-, -, none⟩ := bind_eq_ok_iff.mp none
    cases none

theorem argumentRow_eq_some_iff {t : Table} {row : List Cell} :
    t.argumentRow = .ok (some row) ↔ t.rows.head? = some row ∧
      row.length = t.columns.length ∧ ∀ place, SuitsAt t.columns row place := by
  obtain ⟨columns, rows⟩ := t
  cases rows with
  | nil => exact iff_of_false nofun fun h => nomatch h.1
  | cons first rest =>
    rw [argumentRow_cons, argumentRow_single]
    constructor
    · intro accepted
      obtain ⟨_, wide, accepted⟩ := bind_eq_ok_iff.mp accepted
      obtain ⟨_, checked, accepted⟩ := bind_eq_ok_iff.mp accepted
      obtain rfl := Option.some.inj (Except.ok.inj accepted)
      exact ⟨rfl, checkWidth_eq_ok_iff.mp wide, checkCells_eq_ok_iff.mp checked⟩
    · rintro ⟨same, wide, suits⟩
      obtain rfl := Option.some.inj same
      have wide' : checkWidth ⟨columns, [first]⟩ first = .ok () := checkWidth_eq_ok_iff.mpr wide
      rw [wide', checkCells_eq_ok_iff.mpr suits]
      rfl

theorem argumentRow_eq_error_iff {t : Table} :
    t.argumentRow = .error fault ↔ ∃ row, t.rows.head? = some row ∧
      (row.length ≠ t.columns.length ∧ fault = .width row.length t.columns.length ∨
        row.length = t.columns.length ∧ ∃ place, TellsAt t.columns row place fault) := by
  obtain ⟨columns, rows⟩ := t
  cases rows with
  | nil => exact iff_of_false nofun fun ⟨_, h, _⟩ => nomatch h
  | cons first rest =>
    rw [argumentRow_cons, argumentRow_single]
    have head : ∀ row, (first :: rest).head? = some row ↔ first = row := fun row => by simp
    simp only [head, exists_eq_left']
    by_cases wide : first.length = columns.length
    · have wide' : checkWidth ⟨columns, [first]⟩ first = .ok () := checkWidth_eq_ok_iff.mpr wide
      rw [wide', ← checkCells_eq_error_iff]
      simp only [wide, ne_eq, not_true_eq_false, false_and, true_and, false_or]
      cases checkCells columns first with
      | ok _ => exact iff_of_false nofun nofun
      | error told =>
        exact ⟨fun same => congrArg Except.error (Except.error.inj same),
          fun same => congrArg Except.error (Except.error.inj same)⟩
    · rw [checkWidth_of_ne (t := ⟨columns, [first]⟩) wide]
      simp only [ne_eq, wide, not_false_eq_true, true_and, false_and, or_false]
      exact ⟨fun same => (Except.error.inj same).symm, fun same => congrArg Except.error same.symm⟩

/-! ## Conversions -/

/-- Of all cells only dates can be refused, and only for their year. -/
theorem convert_eq_ok_iff {c : Cell} {v : Value} :
    convert c = .ok v ↔ c.IsArgument ∧ v = valueOf c := by
  cases c with
  | dateTime t =>
    obtain ⟨first, last, positive, inMonth⟩ := Calendar.month_of_isDay t.isDay
    obtain ⟨hours, minutes, seconds, -⟩ := Calendar.isTime_iff.mp t.isTime
    have days : Moment.lastDay t.year t.month = Calendar.daysIn t.year t.month :=
      Moment.lastDay_eq first last
    -- A leap second has more microseconds than a second, so this bound is the clamp's.
    have microseconds : min (t.nanosecond / 1000) lastMicrosecond ≤ 999999 := Nat.min_le_right ..
    have years : (1 ≤ t.year ∧ t.year ≤ 9999) ↔ isYear t.year = true := by simp [isYear]
    constructor
    · intro converted
      obtain ⟨m, made, rfl⟩ := map_eq_ok_iff.mp converted
      obtain ⟨inYears, -, -, -, -, -, -, rfl⟩ := Moment.make_eq_ok_iff.mp made
      exact ⟨years.mp inYears, rfl⟩
    · rintro ⟨inYears, rfl⟩
      refine map_eq_ok_iff.mpr ⟨momentOf t, Moment.make_eq_ok_iff.mpr ?_, rfl⟩
      rw [days]
      exact ⟨years.mpr inYears, by omega, by omega, by omega, by omega, by omega, by omega, rfl⟩
  | _ =>
    exact ⟨fun converted => ⟨trivial, (Except.ok.inj converted).symm⟩,
      fun h => congrArg Except.ok h.2.symm⟩

/-- A leap second on the last day is taken, as the last microsecond before it. -/
example :
    convert (.dateTime ⟨9999, 12, 31, 23, 59, 59, 1999999999, rfl, rfl⟩) =
      .ok (.dateTime (.ofNumbers 9999 12 31 23 59 59 999999)) := rfl

/-- The interpreter takes every row that is accepted. -/
theorem mapM_convert {t : Table} (h : t.argumentRow = .ok (some row)) :
    row.mapM convert = .ok (row.map valueOf) := by
  obtain ⟨-, isArgument⟩ := arguments_of_accepted h
  rw [mapM_eq_ok_iff, List.forall₂_map_right_iff, List.forall₂_same]
  exact fun c mem => convert_eq_ok_iff.mpr ⟨isArgument c mem, rfl⟩

/-- The check is all that can fail. -/
theorem converted_eq (t : Table) : t.converted = t.arguments.mapError .marshal := by
  unfold converted arguments
  cases checked : t.argumentRow with
  | error fault => rfl
  | ok found =>
    cases found with
    | none => rfl
    | some row =>
      show ((row.mapM convert).mapError HostError.python : Except HostError (List Value)) = _
      rw [mapM_convert checked]
      rfl

end Table

end EmbeddedPython
