import EmbeddedPython.HostType
import EmbeddedPython.Table
import Mathlib.Data.Prod.Lex

/-!
# Values there and back

Cells become values of the interpreter, and values are read as cells again.  Only
dates change on the way: the interpreter counts microseconds and has no leap
seconds.  `DateTime.trim` is what is left of a date.

The other way around nothing changes: a value that the interpreter makes out of
its built-in types is read as a cell that becomes the same value.
-/

namespace EmbeddedPython

/-! ## Dates -/

namespace Calendar

theorem daysIn_le (year : Int) (month : Nat) : daysIn year month ≤ 31 := by
  unfold daysIn
  split
  case h_12 => split <;> decide
  all_goals decide

/-- Months are counted up to twelve, and days up to thirty-one. -/
theorem isDay_bounds {year : Int} {month day : Nat} (h : isDay year month day) :
    firstYear ≤ year ∧ year ≤ lastYear ∧ month ≤ 12 ∧ day ≤ 31 := by
  simp only [isDay, Bool.and_eq_true, decide_eq_true_eq] at h
  obtain ⟨⟨⟨first, last⟩, positive⟩, exists_day⟩ := h
  refine ⟨first, last, ?_, exists_day.trans (daysIn_le year month)⟩
  by_contra late
  have none : daysIn year month = 0 := by
    unfold daysIn
    split <;> omega
  omega

theorem isTime_iff {hour minute second nanosecond : Nat} :
    isTime hour minute second nanosecond ↔
      hour < 24 ∧ minute < 60 ∧ second < 60 ∧ nanosecond < 2000000000 := by
  simp [isTime, and_assoc]

end Calendar

namespace DateTime

theorem of?_eq_some {year : Int} {month day hour minute second nanosecond : Nat}
    (isDay : Calendar.isDay year month day)
    (isTime : Calendar.isTime hour minute second nanosecond)
    (leaps : Calendar.leapsAtEnd second nanosecond) :
    of? year month day hour minute second nanosecond =
      some ⟨year, month, day, hour, minute, second, nanosecond, isDay, isTime⟩ := by
  rw [of?, dif_pos isDay, dif_pos isTime, if_pos leaps]

/-- The parts of a date, from the year on. -/
def parts (t : DateTime) : ℤ ×ₗ ℕ ×ₗ ℕ ×ₗ ℕ ×ₗ ℕ ×ₗ ℕ ×ₗ ℕ :=
  toLex (t.year, toLex (t.month, toLex (t.day, toLex (t.hour, toLex (t.minute,
    toLex (t.second, t.nanosecond))))))

/-- Dates are in the order of their parts. -/
instance : LE DateTime := ⟨fun t u => t.parts ≤ u.parts⟩

theorem le_iff (t u : DateTime) :
    t ≤ u ↔ t.year < u.year ∨ t.year = u.year ∧ (t.month < u.month ∨ t.month = u.month ∧
      (t.day < u.day ∨ t.day = u.day ∧ (t.hour < u.hour ∨ t.hour = u.hour ∧
        (t.minute < u.minute ∨ t.minute = u.minute ∧ (t.second < u.second ∨
          t.second = u.second ∧ t.nanosecond ≤ u.nanosecond))))) := by
  show t.parts ≤ u.parts ↔ _
  simp only [parts, Prod.Lex.toLex_le_toLex]

/-- The date in microseconds, where a leap second is over before it starts. -/
def trim (t : DateTime) : DateTime :=
  { t with
    nanosecond := 1000 * min (t.nanosecond / 1000) 999999
    isTime := by
      have time := Calendar.isTime_iff.mp t.isTime
      exact Calendar.isTime_iff.mpr ⟨time.1, time.2.1, time.2.2.1, by omega⟩ }

theorem trim_trim (t : DateTime) : t.trim.trim = t.trim := by
  have same : 1000 * min (1000 * min (t.nanosecond / 1000) 999999 / 1000) 999999 =
      1000 * min (t.nanosecond / 1000) 999999 := by omega
  simp only [trim, same]

/-- Nothing comes later. -/
theorem trim_le (t : DateTime) : t.trim ≤ t := by
  have less : 1000 * min (t.nanosecond / 1000) 999999 ≤ t.nanosecond := by omega
  rw [le_iff]
  exact .inr ⟨rfl, .inr ⟨rfl, .inr ⟨rfl, .inr ⟨rfl, .inr ⟨rfl, .inr ⟨rfl, less⟩⟩⟩⟩⟩⟩

/-- The order stays. -/
theorem trim_mono {t u : DateTime} (h : t ≤ u) : t.trim ≤ u.trim := by
  rw [le_iff] at h ⊢
  simp only [trim]
  omega

end DateTime

/-- A moment as the interpreter makes one. -/
inductive Moment.IsNaive : Moment → Prop
  | mk {year : Int} {month day hour minute second microsecond : Nat}
      (inYears : Table.isYear year) (isDay : Calendar.isDay year month day)
      (isTime : Calendar.isTime hour minute second 0)
      (below : microsecond ≤ Table.lastMicrosecond) :
      IsNaive (.ofNumbers year month day hour minute second microsecond)

namespace HostType

theorem partOf_number {n : Nat} (small : n < UInt32.size) : partOf (.number n) = .ok n := by
  have inRange : (0 : Int) ≤ n ∧ (n : Int) ≤ UInt32.size - 1 := by omega
  rw [partOf, attributeIn, if_pos (by simpa using inRange)]
  rfl

theorem yearOf_number {year : Int} (first : Calendar.firstYear ≤ year)
    (last : year ≤ Calendar.lastYear) : yearOf (.number year) = .ok year := by
  have inRange : Int32.minValue.toInt ≤ year ∧ year ≤ Int32.maxValue.toInt := by
    rw [Calendar.firstYear] at first
    rw [Calendar.lastYear] at last
    rw [show Int32.minValue.toInt = -2147483648 from rfl,
      show Int32.maxValue.toInt = 2147483647 from rfl]
    omega
  rw [yearOf, attributeIn, if_pos (by simpa using inRange)]

/-- Numbers that make up a date are read as the date, leap seconds included. -/
theorem readMoment_of_leaps {year : Int} {month day hour minute second microsecond : Nat}
    (isDay : Calendar.isDay year month day)
    (isTime : Calendar.isTime hour minute second (microsecond * 1000))
    (leaps : Calendar.leapsAtEnd second (microsecond * 1000)) :
    readMoment (.ofNumbers year month day hour minute second microsecond) =
      .ok (some ⟨year, month, day, hour, minute, second, microsecond * 1000, isDay, isTime⟩) := by
  obtain ⟨first, last, months, days⟩ := Calendar.isDay_bounds isDay
  obtain ⟨hours, minutes, seconds, nanoseconds⟩ := Calendar.isTime_iff.mp isTime
  have part {n : Nat} (small : n ≤ 1999999) : partOf (.number n) = .ok n :=
    partOf_number (Nat.lt_of_le_of_lt small (by decide))
  simp only [readMoment, Moment.ofNumbers]
  rw [yearOf_number first last, part (by omega), part (by omega), part (by omega),
    part (by omega), part (by omega), part (by omega)]
  exact congrArg Except.ok (DateTime.of?_eq_some isDay isTime leaps)

theorem readMoment_ofNumbers {year : Int} {month day hour minute second microsecond : Nat}
    (isDay : Calendar.isDay year month day)
    (isTime : Calendar.isTime hour minute second (microsecond * 1000))
    (below : microsecond ≤ Table.lastMicrosecond) :
    readMoment (.ofNumbers year month day hour minute second microsecond) =
      .ok (some ⟨year, month, day, hour, minute, second, microsecond * 1000, isDay, isTime⟩) := by
  refine readMoment_of_leaps isDay isTime ?_
  have whole : microsecond * 1000 < 1000000000 := by
    rw [Table.lastMicrosecond] at below
    omega
  simp [Calendar.leapsAtEnd, whole]

end HostType

/-! ## Cells and values -/

namespace Cell

/-- What is left of a cell on the way there and back. -/
def norm : Cell → Cell
  | dateTime t => dateTime t.trim
  | c => c

theorem norm_norm (c : Cell) : c.norm.norm = c.norm := by
  cases c with
  | dateTime t => exact congrArg dateTime t.trim_trim
  | _ => rfl

/-- The cell may be an argument. -/
def IsArgument : Cell → Prop
  | dateTime t => Table.isYear t.year
  | _ => True

end Cell

/-- A value that the interpreter makes out of its built-in types, and that the
host has a place for. -/
inductive Value.IsPlain : Value → Prop
  | none : IsPlain .none
  | bool (b : Bool) : IsPlain (.bool b)
  | int {n : Int} (low : Int64.minValue.toInt ≤ n) (high : n ≤ Int64.maxValue.toInt) :
      IsPlain (.int n)
  | float (x : Double) : IsPlain (.float x)
  | str (s : String) : IsPlain (.str s)
  | bytes (octets : Octets) : IsPlain (.bytes octets)
  | dateTime {m : Moment} (naive : m.IsNaive) : IsPlain (.dateTime m)

namespace HostType

/-- A date is read as it was written, up to what the interpreter does not
count. -/
theorem readMoment_momentOf (t : DateTime) :
    readMoment (Table.momentOf t) = .ok (some t.trim) := by
  have below : min (t.nanosecond / 1000) 999999 ≤ Table.lastMicrosecond := Nat.min_le_right ..
  have isTime : Calendar.isTime t.hour t.minute t.second
      (min (t.nanosecond / 1000) 999999 * 1000) := by
    rw [Nat.mul_comm]
    exact t.trim.isTime
  have read : readMoment (Table.momentOf t) = .ok (some _) :=
    readMoment_ofNumbers t.isDay isTime below
  rw [read]
  simp only [DateTime.trim, Nat.mul_comm]

/-- An integer of 64 bits is read as it is. -/
theorem readCell_int {n : Int} (low : Int64.minValue.toInt ≤ n)
    (high : n ≤ Int64.maxValue.toInt) : readCell (.int n) = .ok (.int (Int64.ofInt n)) := by
  have fits : readInt64? (.int n) = some (Int64.ofInt n) := by
    show (if Int64.minValue.toInt ≤ n && n ≤ Int64.maxValue.toInt then _ else _) = _
    rw [if_pos (by simpa using And.intro low high)]
  show (require .int64 (.int n) (readInt64? (.int n))).map Cell.int = _
  rw [fits]
  rfl

theorem readCell_dateTime {m : Moment} {t : DateTime} (h : readMoment m = .ok (some t)) :
    readCell (.dateTime m) = .ok (.dateTime t) := by
  have read : readDateTime (.dateTime m) = .ok t := by
    simp only [readDateTime, Value.core, h, require]
  simp only [readCell, Value.core, read]

/-- A cell is read as what is left of it. -/
theorem readCell_valueOf (c : Cell) : readCell (Table.valueOf c) = .ok c.norm := by
  cases c with
  | int n =>
    have read := readCell_int n.minValue_le_toInt n.toInt_le
    rw [Int64.ofInt_toInt] at read
    exact read
  | dateTime t => exact readCell_dateTime (readMoment_momentOf t)
  | _ => rfl

/-- A plain value is read as an argument that becomes the same value. -/
theorem readCell_of_isPlain {v : Value} (h : v.IsPlain) :
    ∃ c, readCell v = .ok c ∧ c.IsArgument ∧ Table.valueOf c = v := by
  cases h with
  | int low high =>
    refine ⟨_, readCell_int low high, trivial, ?_⟩
    exact congrArg Value.int (Int64.toInt_ofInt_of_le low (Int.lt_add_one_of_le high))
  | dateTime naive =>
    obtain @⟨year, month, day, hour, minute, second, microsecond, inYears, isDay, time, below⟩ :=
      naive
    obtain ⟨hours, minutes, seconds, -⟩ := Calendar.isTime_iff.mp time
    rw [Table.lastMicrosecond] at below
    have isTime : Calendar.isTime hour minute second (microsecond * 1000) :=
      Calendar.isTime_iff.mpr ⟨hours, minutes, seconds, by omega⟩
    have same : min (microsecond * 1000 / 1000) 999999 = microsecond := by omega
    refine ⟨_, readCell_dateTime (readMoment_ofNumbers isDay isTime below), inYears, ?_⟩
    simp only [Table.valueOf, Table.momentOf, Table.lastMicrosecond, same]
  | _ => exact ⟨_, rfl, trivial, rfl⟩

/-- A list of cells is read item by item. -/
theorem read_row (row : List Cell) :
    (list cell).read (.tuple (row.map Table.valueOf)) = .ok (row.map Cell.norm) := by
  show (row.map Table.valueOf).mapM readCell = _
  induction row with
  | nil => rfl
  | cons c row ih =>
    rw [List.map_cons, List.mapM_cons, readCell_valueOf, ih]
    rfl

end HostType

/-! ## Tables -/

namespace Table

theorem isPlain_valueOf {c : Cell} (h : c.IsArgument) : (valueOf c).IsPlain := by
  cases c with
  | null => exact .none
  | bool b => exact .bool b
  | int n => exact .int n.minValue_le_toInt n.toInt_le
  | float x => exact .float x
  | text s => exact .str s
  | bytes octets => exact .bytes octets
  | dateTime t =>
    have time := Calendar.isTime_iff.mp t.isTime
    exact .dateTime (.mk h t.isDay
      (Calendar.isTime_iff.mpr ⟨time.1, time.2.1, time.2.2.1, by decide⟩) (Nat.min_le_right ..))

/-- What passes the check may be an argument. -/
theorem isArgument_of_checkCell {column : Column} {c : Cell}
    (h : checkCell column c = .ok ()) : c.IsArgument := by
  cases c with
  | dateTime t =>
    unfold checkCell at h
    split at h
    · cases h
    · split at h
      · dsimp only at h
        split at h
        · assumption
        · cases h
      · cases h
  | _ => trivial

theorem isArgument_of_checkCells {columns : List Column} {row : List Cell}
    (width : row.length = columns.length) (h : checkCells columns row = .ok ()) :
    ∀ c ∈ row, c.IsArgument := by
  induction columns generalizing row with
  | nil =>
    rw [List.eq_nil_of_length_eq_zero width]
    exact fun _ mem => nomatch mem
  | cons column columns ih =>
    cases row with
    | nil => exact fun _ mem => nomatch mem
    | cons c row =>
      rw [checkCells] at h
      cases checked : checkCell column c with
      | error fault =>
        rw [checked] at h
        cases h
      | ok _ =>
        rw [checked] at h
        intro d mem
        rcases List.mem_cons.mp mem with rfl | mem
        · exact isArgument_of_checkCell checked
        · exact ih (Nat.succ.inj width) h d mem

/-- A row that is accepted has arguments only, and they are its values. -/
theorem arguments_of_accepted {t : Table} {row : List Cell}
    (h : t.argumentRow = .ok (some row)) :
    t.arguments = .ok (row.map valueOf) ∧ ∀ c ∈ row, c.IsArgument := by
  refine ⟨by rw [arguments, h]; rfl, ?_⟩
  unfold argumentRow at h
  split at h
  · cases h
  · rename_i first rest _
    cases wide : t.checkWidth first with
    | error fault =>
      rw [wide] at h
      cases h
    | ok _ =>
      rw [wide] at h
      cases checked : checkCells t.columns first with
      | error fault =>
        rw [checked] at h
        cases h
      | ok _ =>
        rw [checked] at h
        obtain rfl := Option.some.inj (Except.ok.inj h)
        have width : first.length = t.columns.length := by
          unfold checkWidth at wide
          split at wide
          · assumption
          · cases wide
        exact isArgument_of_checkCells width checked

/-- A cell that may be an argument is one for a column of its own type. -/
theorem checkCell_columnType {name : String} {c : Cell} (h : c.IsArgument) :
    checkCell ⟨name, c.columnType⟩ c = .ok () := by
  cases c with
  | dateTime t =>
    have inYears : isYear t.year = true := h
    simp [checkCell, Cell.fits, Cell.columnType, inYears]
  | _ => simp [checkCell, Cell.fits, Cell.columnType]

/-- A table that is made from arguments is accepted. -/
theorem argumentRow_ofRow {cells : List (String × Cell)}
    (h : ∀ c ∈ cells.map Prod.snd, c.IsArgument) :
    (ofRow cells).argumentRow = .ok (some (cells.map Prod.snd)) := by
  have checked : checkCells (ofRow cells).columns (cells.map Prod.snd) = .ok () := by
    show checkCells (cells.map _) _ = _
    induction cells with
    | nil => rfl
    | cons cell cells ih =>
      have first : cell.2.IsArgument := h _ List.mem_cons_self
      rw [List.map_cons, List.map_cons, checkCells, checkCell_columnType first]
      exact ih fun c mem => h c (List.mem_cons_of_mem _ mem)
  have wide : (ofRow cells).checkWidth (cells.map Prod.snd) = .ok () := by
    simp [checkWidth, ofRow]
  show (do
    (ofRow cells).checkWidth (cells.map Prod.snd)
    checkCells (ofRow cells).columns (cells.map Prod.snd)
    return some (cells.map Prod.snd)) = _
  rw [wide, checked]
  rfl

end Table

/-! ## The round trip -/

/-- What is promised of values on the way into the interpreter and back. -/
structure RoundTrips : Prop where
  /-- An accepted row becomes plain values, which are read as what is left of the
  row. -/
  row : ∀ (t : Table) (row : List Cell), t.argumentRow = .ok (some row) →
    ∃ args, t.arguments = .ok args ∧ (∀ v ∈ args, v.IsPlain) ∧
      (HostType.list .cell).read (.tuple args) = .ok (row.map Cell.norm)
  /-- Nothing more is lost on a second way. -/
  again : ∀ c : Cell, c.norm.norm = c.norm
  /-- No date becomes a later one. -/
  not_later : ∀ t : DateTime, t.trim ≤ t
  /-- Dates stay in order. -/
  in_order : ∀ t u : DateTime, t ≤ u → t.trim ≤ u.trim
  /-- A plain value is read as a cell, and a table of this cell has the value as its
  argument. -/
  value : ∀ (v : Value) (name : String), v.IsPlain → ∃ c, HostType.cell.read v = .ok c ∧
    (Table.ofRow [(name, c)]).argumentRow = .ok (some [c]) ∧
    (Table.ofRow [(name, c)]).arguments = .ok [v]

/-- Values come through the interpreter and back, up to what it does not count. -/
theorem values_round_trip : RoundTrips where
  row t row h := by
    obtain ⟨arguments, isArgument⟩ := Table.arguments_of_accepted h
    refine ⟨_, arguments, fun v mem => ?_, HostType.read_row row⟩
    obtain ⟨c, inRow, rfl⟩ := List.mem_map.mp mem
    exact Table.isPlain_valueOf (isArgument c inRow)
  again := Cell.norm_norm
  not_later := DateTime.trim_le
  in_order _ _ := DateTime.trim_mono
  value v name h := by
    obtain ⟨c, read, isArgument, same⟩ := HostType.readCell_of_isPlain h
    have accepted : (Table.ofRow [(name, c)]).argumentRow = .ok (some [c]) :=
      Table.argumentRow_ofRow fun d mem => List.mem_singleton.mp mem ▸ isArgument
    refine ⟨c, read, accepted, ?_⟩
    rw [(Table.arguments_of_accepted accepted).1, List.map_singleton, same]

/-- A leap second ends in the last microsecond before it. -/
theorem leap_second_round_trips :
    let leap : DateTime := ⟨2016, 12, 31, 23, 59, 59, 1500000000, rfl, rfl⟩
    let last : DateTime := ⟨2016, 12, 31, 23, 59, 59, 999999000, rfl, rfl⟩
    let t := Table.ofRow [("b", .bool true), ("n", .int 1), ("at", .dateTime leap)]
    ∃ args, t.arguments = .ok args ∧
      (HostType.list .cell).read (.tuple args) = .ok [.bool true, .int 1, .dateTime last] := by
  intro leap last t
  obtain ⟨args, arguments, -, read⟩ :=
    values_round_trip.row t [.bool true, .int 1, .dateTime leap] rfl
  have same : [Cell.bool true, .int 1, .dateTime leap].map Cell.norm =
      [.bool true, .int 1, .dateTime last] := by decide
  exact ⟨args, arguments, read.trans (congrArg Except.ok same)⟩

end EmbeddedPython
