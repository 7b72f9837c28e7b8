import EmbeddedPython.Proofs.Marshal.RoundTrip
import Mathlib.Data.List.Forall2

/-!
# What is read as a value of a type

`HostType.Reads` says which value of a host type a value of the interpreter is
read as, and `HostType.Offends` says what a single node of a value has against
it: what is below the node does not matter to it.  `HostType.nodes` lists the
nodes in the order in which they are looked at, every node in front of those
below it and everything from left to right.

`HostType.read_eq_ok_iff` and `HostType.read_eq_error_iff` are that `read` follows
the two, at every type: it gives what the value is read as, or what the first node
that offends has against it.
-/

namespace EmbeddedPython

/-! ## Dates -/

namespace Moment

/-- The attributes are the numbers of a date.  A microsecond of a million or more
stands for a leap second. -/
def Shows (m : Moment) (t : DateTime) : Prop :=
  ∃ microsecond : Nat,
    m = .ofNumbers t.year t.month t.day t.hour t.minute t.second microsecond ∧
      t.nanosecond = 1000 * microsecond ∧ (microsecond < 1000000 ∨ t.second = 59)

/-- The first attribute of the day that is no number in range raises an exception
of some type. -/
inductive Raises : Moment → String → Prop
  | year {m : Moment} {kind : String} (h : HostType.yearOf m.year = .error kind) : Raises m kind
  | month {m : Moment} {kind : String} {year : Int} (hy : HostType.yearOf m.year = .ok year)
      (h : HostType.partOf m.month = .error kind) : Raises m kind
  | day {m : Moment} {kind : String} {year : Int} {month : Nat}
      (hy : HostType.yearOf m.year = .ok year) (hm : HostType.partOf m.month = .ok month)
      (h : HostType.partOf m.day = .error kind) : Raises m kind

end Moment

namespace HostType

/-! ## The relation -/

/-- A cell stands for a value of its own kind: a boolean is no integer, and an
integer is no double. -/
inductive CellOf (v : Value) : Cell → Prop
  | null (h : v.core = .none) : CellOf v .null
  | bool {b : Bool} (h : v.core = .bool b) : CellOf v (.bool b)
  | int {n : Int64} (h : v.core = .int n.toInt) : CellOf v (.int n)
  | float {x : Double} (h : v.core = .float x) : CellOf v (.float x)
  | text {s : String} (h : v.core = .str s) : CellOf v (.text s)
  | bytes {o : Octets} (h : v.core = .bytes o ∨ v.core = .byteArray o) : CellOf v (.bytes o)
  | dateTime {m : Moment} {t : DateTime} (h : v.core = .dateTime m) (shows : m.Shows t) :
      CellOf v (.dateTime t)

/-- A value is read as a value of a host type. -/
def Reads : (t : HostType) → Value → t.Carrier → Prop
  | unit, v, _ => v.core = .none
  | bool, v, b => v.core = .bool b
  | int32, v, n => v.index? = some (Int32.toInt n)
  | int64, v, n => v.index? = some (Int64.toInt n)
  | float, v, x => v.real? = some x
  | text, v, s => v.core = .str s
  | bytes, v, o => v.core = .bytes o ∨ v.core = .byteArray o
  | dateTime, v, t => ∃ m, v.core = .dateTime m ∧ m.Shows t
  | cell, v, c => CellOf v c
  | option _, v, none => v.core = .none
  | option t, v, some a => v.core ≠ .none ∧ Reads t v a
  | list t, v, as => ∃ items, v.items? = some items ∧ List.Forall₂ (Reads t) items as
  | pair a b, v, r => ∃ x y, v.tupleItems? = some [x, y] ∧ Reads a x r.1 ∧ Reads b y r.2
  | triple a b c, v, r => ∃ x y z, v.tupleItems? = some [x, y, z] ∧
      Reads a x r.1 ∧ Reads b y r.2.1 ∧ Reads c z r.2.2

/-! ## Nodes -/

/-- A type without a part that is a type, whose misfits name the type itself. -/
def IsScalar : HostType → Prop
  | unit | bool | int32 | int64 | float | text | bytes => True
  | _ => False

/-- What a node has against a value, whatever is below the node. -/
inductive Offends : HostType → Value → Misfit → Prop
  | scalar {t : HostType} {v : Value} (h : t.IsScalar) (no : ∀ a, ¬ t.Reads v a) :
      Offends t v (t.misfit v)
  | noDate {v : Value} (h : ∀ m, v.core ≠ .dateTime m) : Offends dateTime v (dateTime.misfit v)
  | raising {v : Value} {m : Moment} {kind : String} (h : v.core = .dateTime m)
      (raises : m.Raises kind) : Offends dateTime v (.raised kind)
  | noMoment {v : Value} {m : Moment} (h : v.core = .dateTime m) (calm : ∀ kind, ¬ m.Raises kind)
      (no : ∀ t, ¬ m.Shows t) : Offends dateTime v (dateTime.misfit v)
  | wideInt {v : Value} {n : Int} (h : v.core = .int n) (no : ∀ a, ¬ Reads int64 v a) :
      Offends cell v (int64.misfit v)
  | brokenText {v : Value} (h : v.core = .brokenStr) : Offends cell v (text.misfit v)
  | noCell {v : Value} (noInt : ∀ n, v.core ≠ .int n) (noText : v.core ≠ .brokenStr)
      (no : ∀ c, ¬ CellOf v c) : Offends cell v (cell.misfit v)
  | noItems {t : HostType} {v : Value} (h : v.items? = none) :
      Offends (list t) v ((list t).misfit v)
  | noPair {a b : HostType} {v : Value} (h : ∀ x y, v.tupleItems? ≠ some [x, y]) :
      Offends (pair a b) v ((pair a b).misfit v)
  | noTriple {a b c : HostType} {v : Value} (h : ∀ x y z, v.tupleItems? ≠ some [x, y, z]) :
      Offends (triple a b c) v ((triple a b c).misfit v)

/-- The nodes of a value that is read as a type, in the order they are looked at. -/
def nodes : HostType → Value → List (HostType × Value)
  | option t, v => (option t, v) :: if v.isNone then [] else nodes t v
  | list t, v => (list t, v) :: (v.items?.getD []).flatMap (nodes t)
  | pair a b, v =>
    (pair a b, v) ::
      match v.tupleItems? with
      | some [x, y] => nodes a x ++ nodes b y
      | _ => []
  | triple a b c, v =>
    (triple a b c, v) ::
      match v.tupleItems? with
      | some [x, y, z] => nodes a x ++ (nodes b y ++ nodes c z)
      | _ => []
  | t, v => [(t, v)]

/-- The first of some nodes that offends, with what it has against its value. -/
inductive FirstOffence : List (HostType × Value) → Misfit → Prop
  | here {t : HostType} {v : Value} {rest : List (HostType × Value)} {e : Misfit}
      (h : Offends t v e) : FirstOffence ((t, v) :: rest) e
  | later {t : HostType} {v : Value} {rest : List (HostType × Value)} {e : Misfit}
      (calm : ∀ e, ¬ Offends t v e) (h : FirstOffence rest e) : FirstOffence ((t, v) :: rest) e

/-- No node has anything against its value. -/
def Calm (ns : List (HostType × Value)) : Prop :=
  ∀ n ∈ ns, ∀ e, ¬ Offends n.1 n.2 e

/-! ## Answers and misfits -/

theorem bind_eq_ok_iff {ε α β : Type} {x : Except ε α} {f : α → Except ε β} {b : β} :
    (x >>= f) = .ok b ↔ ∃ a, x = .ok a ∧ f a = .ok b := by
  cases x with
  | error e =>
    constructor
    · intro h
      cases h
    · rintro ⟨a, h, -⟩
      cases h
  | ok a =>
    constructor
    · exact fun h => ⟨a, rfl, h⟩
    · rintro ⟨a, same, h⟩
      rwa [Except.ok.inj same]

theorem map_eq_ok_iff {ε α β : Type} {x : Except ε α} {f : α → β} {b : β} :
    x.map f = .ok b ↔ ∃ a, x = .ok a ∧ f a = b := by
  cases x <;> simp [Except.map]

theorem toOption_join_eq_some {ε α : Type} {x : Except ε (Option α)} {a : α}
    (h : x.toOption.join = some a) : x = .ok (some a) := by
  cases x with
  | error e => cases h
  | ok found => exact congrArg Except.ok h

/-- All of some items have an answer when they have one each, in order. -/
theorem mapM_eq_ok_iff {ε α β : Type} {f : α → Except ε β} {xs : List α} {ys : List β} :
    xs.mapM f = .ok ys ↔ List.Forall₂ (fun x y => f x = .ok y) xs ys := by
  induction xs generalizing ys with
  | nil =>
    rw [List.mapM_nil, List.forall₂_nil_left_iff]
    exact ⟨fun h => (Except.ok.inj h).symm, fun h => congrArg Except.ok h.symm⟩
  | cons x xs ih =>
    rw [List.mapM_cons, bind_eq_ok_iff]
    constructor
    · rintro ⟨y, first, h⟩
      obtain ⟨ys', others, h⟩ := bind_eq_ok_iff.1 h
      obtain rfl := Except.ok.inj h
      exact .cons first (ih.1 others)
    · intro h
      cases h with
      | cons first others =>
        exact ⟨_, first, bind_eq_ok_iff.2 ⟨_, ih.2 others, rfl⟩⟩

theorem require_eq_ok_iff {α : Type} {t : HostType} {v : Value} {o : Option α} {a : α} :
    require t v o = .ok a ↔ o = some a := by
  cases o <;> simp [require]

/-! ## Leaves -/

theorem attributeIn_eq_ok_iff {low high : Int} {a : Attribute} {n : Int} :
    attributeIn low high a = .ok n ↔ a = .number n ∧ low ≤ n ∧ n ≤ high := by
  cases a with
  | number k =>
    simp only [attributeIn, Bool.and_eq_true, decide_eq_true_eq, Attribute.number.injEq]
    split
    · next h =>
      simp only [Except.ok.injEq]
      exact ⟨fun same => ⟨same, same ▸ h⟩, fun h => h.1⟩
    · next h =>
      constructor
      · intro found
        cases found
      · rintro ⟨rfl, range⟩
        exact absurd range h
  | text => simp [attributeIn]
  | raises kind => simp [attributeIn]

theorem partOf_eq_ok {a : Attribute} {n : Nat} (h : partOf a = .ok n) : a = .number n := by
  obtain ⟨k, found, rfl⟩ := map_eq_ok_iff.1 h
  obtain ⟨rfl, positive, -⟩ := attributeIn_eq_ok_iff.1 found
  rw [Int.toNat_of_nonneg positive]

/-- The exceptions of the day are passed on, and no others. -/
theorem readMoment_eq_error_iff {m : Moment} {kind : String} :
    readMoment m = .error kind ↔ m.Raises kind := by
  unfold readMoment
  constructor
  · intro h
    cases hy : yearOf m.year with
    | error kind' =>
      rw [hy] at h
      obtain rfl := Except.error.inj h
      exact .year hy
    | ok year =>
      cases hm : partOf m.month with
      | error kind' =>
        rw [hy, hm] at h
        obtain rfl := Except.error.inj h
        exact .month hy hm
      | ok month =>
        cases hd : partOf m.day with
        | error kind' =>
          rw [hy, hm, hd] at h
          obtain rfl := Except.error.inj h
          exact .day hy hm hd
        | ok day =>
          rw [hy, hm, hd] at h
          cases h
  · intro h
    cases h with
    | year h =>
      rw [h]
      rfl
    | month hy h =>
      rw [hy, h]
      rfl
    | day hy hm h =>
      rw [hy, hm, h]
      rfl

theorem shows_of_of? {year : Int} {month day hour minute second microsecond : Nat} {t : DateTime}
    (h : DateTime.of? year month day hour minute second (microsecond * 1000) = some t) :
    (Moment.ofNumbers year month day hour minute second microsecond).Shows t := by
  unfold DateTime.of? at h
  split at h
  · split at h
    · split at h
      · next leaps =>
        obtain rfl := Option.some.inj h
        refine ⟨microsecond, rfl, Nat.mul_comm .., ?_⟩
        simp only [Calendar.leapsAtEnd, Bool.or_eq_true, decide_eq_true_eq, beq_iff_eq] at leaps
        dsimp only
        omega
      · cases h
    · cases h
  · cases h

/-- A date is what its attributes show. -/
theorem readMoment_eq_ok_iff {m : Moment} {t : DateTime} :
    readMoment m = .ok (some t) ↔ m.Shows t := by
  constructor
  · intro h
    obtain ⟨year, hyear, h⟩ := bind_eq_ok_iff.1 h
    obtain ⟨month, hmonth, h⟩ := bind_eq_ok_iff.1 h
    obtain ⟨day, hday, h⟩ := bind_eq_ok_iff.1 h
    replace h := toOption_join_eq_some (Except.ok.inj h)
    obtain ⟨hour, hhour, h⟩ := bind_eq_ok_iff.1 h
    obtain ⟨minute, hminute, h⟩ := bind_eq_ok_iff.1 h
    obtain ⟨second, hsecond, h⟩ := bind_eq_ok_iff.1 h
    obtain ⟨microsecond, hmicrosecond, h⟩ := bind_eq_ok_iff.1 h
    have same : m = .ofNumbers year month day hour minute second microsecond := by
      rw [Moment.ofNumbers, ← (attributeIn_eq_ok_iff.1 hyear).1, ← partOf_eq_ok hmonth,
        ← partOf_eq_ok hday, ← partOf_eq_ok hhour, ← partOf_eq_ok hminute,
        ← partOf_eq_ok hsecond, ← partOf_eq_ok hmicrosecond]
    rw [same]
    exact shows_of_of? (Except.ok.inj h)
  · rintro ⟨microsecond, rfl, nanosecond, leaps⟩
    have same : t.nanosecond = microsecond * 1000 := nanosecond.trans (Nat.mul_comm ..)
    have isTime : Calendar.isTime t.hour t.minute t.second (microsecond * 1000) := same ▸ t.isTime
    have leapsAtEnd : Calendar.leapsAtEnd t.second (microsecond * 1000) := by
      simp only [Calendar.leapsAtEnd, Bool.or_eq_true, decide_eq_true_eq, beq_iff_eq]
      omega
    rw [readMoment_of_leaps t.isDay isTime leapsAtEnd]
    simp only [← same]

theorem readInt32?_eq_some_iff {v : Value} {n : Int32} :
    readInt32? v = some n ↔ v.index? = some n.toInt := by
  unfold readInt32?
  cases v.index? with
  | none => simp
  | some k =>
    simp only [Option.bind_some, Bool.and_eq_true, decide_eq_true_eq, Option.some.injEq]
    constructor
    · intro h
      split at h
      · next range =>
        obtain rfl := Option.some.inj h
        rw [Int32.toInt_ofInt_of_le range.1 (Int.lt_add_one_of_le range.2)]
      · cases h
    · rintro rfl
      rw [if_pos ⟨n.minValue_le_toInt, n.toInt_le⟩, Int32.ofInt_toInt]

theorem readInt64?_eq_some_iff {v : Value} {n : Int64} :
    readInt64? v = some n ↔ v.index? = some n.toInt := by
  unfold readInt64?
  cases v.index? with
  | none => simp
  | some k =>
    simp only [Option.bind_some, Bool.and_eq_true, decide_eq_true_eq, Option.some.injEq]
    constructor
    · intro h
      split at h
      · next range =>
        obtain rfl := Option.some.inj h
        rw [Int64.toInt_ofInt_of_le range.1 (Int.lt_add_one_of_le range.2)]
      · cases h
    · rintro rfl
      rw [if_pos ⟨n.minValue_le_toInt, n.toInt_le⟩, Int64.ofInt_toInt]

theorem readBool?_eq_some_iff {v : Value} {b : Bool} :
    readBool? v = some b ↔ v.core = .bool b := by
  unfold readBool?
  cases v.core <;> simp

theorem readText?_eq_some_iff {v : Value} {s : String} :
    readText? v = some s ↔ v.core = .str s := by
  unfold readText?
  cases v.core <;> simp

theorem readBytes?_eq_some_iff {v : Value} {o : Octets} :
    readBytes? v = some o ↔ v.core = .bytes o ∨ v.core = .byteArray o := by
  unfold readBytes?
  cases v.core <;> simp

theorem isNone_iff {v : Value} : v.isNone = true ↔ v.core = .none := by
  unfold Value.isNone
  cases v.core <;> simp

theorem readDateTime_eq_ok_iff {v : Value} {t : DateTime} :
    readDateTime v = .ok t ↔ ∃ m, v.core = .dateTime m ∧ m.Shows t := by
  unfold readDateTime
  cases core : v.core with
  | dateTime m =>
    simp only [Value.dateTime.injEq, ← readMoment_eq_ok_iff]
    cases found : readMoment m with
    | error kind => simp [found]
    | ok o => simp [found, require_eq_ok_iff]
  | _ => simp

/-- A cell is read where the value stands for one. -/
theorem readCell_eq_ok_iff {v : Value} {c : Cell} : readCell v = .ok c ↔ CellOf v c := by
  constructor
  · intro h
    unfold readCell at h
    split at h
    case h_1 core =>
      obtain rfl := Except.ok.inj h
      exact .null core
    case h_2 b core =>
      obtain rfl := Except.ok.inj h
      exact .bool core
    case h_3 k core =>
      obtain ⟨n, found, rfl⟩ := map_eq_ok_iff.1 h
      have index := readInt64?_eq_some_iff.1 (require_eq_ok_iff.1 found)
      rw [Value.index?, core] at index
      exact .int (core.trans (congrArg Value.int (Option.some.inj index)))
    case h_4 x core =>
      obtain rfl := Except.ok.inj h
      exact .float core
    case h_5 s core =>
      obtain rfl := Except.ok.inj h
      exact .text core
    case h_6 => cases h
    case h_7 o core =>
      obtain rfl := Except.ok.inj h
      exact .bytes (.inl core)
    case h_8 o core =>
      obtain rfl := Except.ok.inj h
      exact .bytes (.inr core)
    case h_9 =>
      split at h
      · next t found =>
        obtain rfl := Except.ok.inj h
        obtain ⟨m, core, shows⟩ := readDateTime_eq_ok_iff.1 found
        exact .dateTime core shows
      · cases h
  · intro h
    cases h with
    | int core =>
      have found := readInt64?_eq_some_iff.2 (show v.index? = _ by rw [Value.index?, core])
      simp only [readCell, core, found, require, Except.map]
    | dateTime core shows =>
      have found := readDateTime_eq_ok_iff.2 ⟨_, core, shows⟩
      simp only [readCell, core, found]
    | bytes core => rcases core with core | core <;> simp only [readCell, core]
    | _ core => simp only [readCell, core]

/-! ## Containers -/

section Containers

variable {a b c : HostType} {v x y z : Value}

theorem read_option_of_isNone (h : v.isNone = true) :
    (option a).read v = .ok (none : Option a.Carrier) := by
  rw [read, if_pos h]

theorem read_option_of_not_isNone (h : ¬v.isNone = true) :
    (option a).read v = (a.read v).map (some : a.Carrier → Option a.Carrier) := by
  rw [read, if_neg h]
  rfl

theorem read_list {items : List Value} (h : v.items? = some items) :
    (list a).read v = (items.mapM a.read : Except Misfit (List a.Carrier)) := by
  simp only [read, h]
  rfl

theorem read_list_of_none (h : v.items? = none) :
    (list a).read v = .error ((list a).misfit v) := by
  simp only [read, h]

theorem read_pair (h : v.tupleItems? = some [x, y]) :
    (pair a b).read v = (do
      let x ← a.read x
      let y ← b.read y
      return (x, y) : Except Misfit (a.Carrier × b.Carrier)) := by
  simp only [read, h]
  rfl

theorem read_pair_of_ne (h : ∀ x y, v.tupleItems? ≠ some [x, y]) :
    (pair a b).read v = .error ((pair a b).misfit v) := by
  unfold read
  cases found : v.tupleItems? with
  | none => rfl
  | some items =>
    rcases items with - | ⟨x, - | ⟨y, - | ⟨z, rest⟩⟩⟩
    case cons.cons.nil => exact absurd found (h x y)
    all_goals rfl

theorem read_triple (h : v.tupleItems? = some [x, y, z]) :
    (triple a b c).read v = (do
      let x ← a.read x
      let y ← b.read y
      let z ← c.read z
      return (x, y, z) : Except Misfit (a.Carrier × b.Carrier × c.Carrier)) := by
  simp only [read, h]
  rfl

theorem read_triple_of_ne (h : ∀ x y z, v.tupleItems? ≠ some [x, y, z]) :
    (triple a b c).read v = .error ((triple a b c).misfit v) := by
  unfold read
  cases found : v.tupleItems? with
  | none => rfl
  | some items =>
    rcases items with - | ⟨x, - | ⟨y, - | ⟨z, - | ⟨w, rest⟩⟩⟩⟩
    case cons.cons.cons.nil => exact absurd found (h x y z)
    all_goals rfl

/-- An option is read as nothing where there is nothing, and as its item elsewhere. -/
theorem read_option_eq_ok_iff {r : Option a.Carrier} :
    (option a).read v = .ok r ↔ match r with
      | none => v.core = .none
      | some x => v.core ≠ .none ∧ a.read v = .ok x := by
  by_cases outer : v.isNone = true
  · rw [read_option_of_isNone outer]
    rw [isNone_iff] at outer
    cases r with
    | none => exact iff_of_true rfl outer
    | some x => exact iff_of_false (fun h => nomatch Except.ok.inj h) fun h => h.1 outer
  · rw [read_option_of_not_isNone outer]
    refine map_eq_ok_iff.trans ?_
    rw [isNone_iff] at outer
    cases r <;> simp [outer]

/-- A list is read item by item. -/
theorem read_list_eq_ok_iff {r : List a.Carrier} :
    (list a).read v = .ok r ↔ ∃ items, v.items? = some items ∧
      List.Forall₂ (fun x y => a.read x = .ok y) items r := by
  cases found : v.items? with
  | none =>
    rw [read_list_of_none found]
    exact iff_of_false nofun fun ⟨_, h, _⟩ => nomatch h
  | some items =>
    rw [read_list found]
    refine mapM_eq_ok_iff.trans ?_
    simp only [Option.some.injEq, exists_eq_left']

/-- A pair is read part by part. -/
theorem read_pair_eq_ok_iff {r : a.Carrier × b.Carrier} :
    (pair a b).read v = .ok r ↔ ∃ x y, v.tupleItems? = some [x, y] ∧
      a.read x = .ok r.1 ∧ b.read y = .ok r.2 := by
  by_cases found : ∃ x y, v.tupleItems? = some [x, y]
  · obtain ⟨x, y, found⟩ := found
    rw [read_pair found]
    refine bind_eq_ok_iff.trans ?_
    simp only [bind_eq_ok_iff, found]
    constructor
    · rintro ⟨first, hx, second, hy, h⟩
      obtain rfl := Except.ok.inj h
      exact ⟨x, y, rfl, hx, hy⟩
    · rintro ⟨_, _, same, hx, hy⟩
      obtain ⟨rfl, rfl⟩ : x = _ ∧ y = _ := by simpa using same
      exact ⟨r.1, hx, r.2, hy, rfl⟩
  · rw [read_pair_of_ne fun x y h => found ⟨x, y, h⟩]
    exact iff_of_false nofun fun ⟨x, y, h, _⟩ => found ⟨x, y, h⟩

/-- So is a triple. -/
theorem read_triple_eq_ok_iff {r : a.Carrier × b.Carrier × c.Carrier} :
    (triple a b c).read v = .ok r ↔ ∃ x y z, v.tupleItems? = some [x, y, z] ∧
      a.read x = .ok r.1 ∧ b.read y = .ok r.2.1 ∧ c.read z = .ok r.2.2 := by
  by_cases found : ∃ x y z, v.tupleItems? = some [x, y, z]
  · obtain ⟨x, y, z, found⟩ := found
    rw [read_triple found]
    refine bind_eq_ok_iff.trans ?_
    simp only [bind_eq_ok_iff, found]
    constructor
    · rintro ⟨first, hx, second, hy, third, hz, h⟩
      obtain rfl := Except.ok.inj h
      exact ⟨x, y, z, rfl, hx, hy, hz⟩
    · rintro ⟨_, _, _, same, hx, hy, hz⟩
      obtain ⟨rfl, rfl, rfl⟩ : x = _ ∧ y = _ ∧ z = _ := by simpa using same
      exact ⟨r.1, hx, r.2.1, hy, r.2.2, hz, rfl⟩
  · rw [read_triple_of_ne fun x y z h => found ⟨x, y, z, h⟩]
    exact iff_of_false nofun fun ⟨x, y, z, h, _⟩ => found ⟨x, y, z, h⟩

end Containers

/-! ## Answers -/

/-- A value is read as what it is related to. -/
theorem read_eq_ok_iff {t : HostType} {v : Value} {r : t.Carrier} :
    t.read v = .ok r ↔ t.Reads v r := by
  induction t generalizing v with
  | unit =>
    show (if v.isNone then Except.ok () else _) = Except.ok () ↔ v.core = .none
    rw [← isNone_iff]
    cases v.isNone <;> simp
  | bool => exact require_eq_ok_iff.trans readBool?_eq_some_iff
  | int32 => exact require_eq_ok_iff.trans readInt32?_eq_some_iff
  | int64 => exact require_eq_ok_iff.trans readInt64?_eq_some_iff
  | float => exact require_eq_ok_iff
  | text => exact require_eq_ok_iff.trans readText?_eq_some_iff
  | bytes => exact require_eq_ok_iff.trans readBytes?_eq_some_iff
  | dateTime => exact readDateTime_eq_ok_iff
  | cell => exact readCell_eq_ok_iff
  | option t ih =>
    refine read_option_eq_ok_iff.trans ?_
    cases r with
    | none => exact Iff.rfl
    | some x => exact and_congr_right fun _ => ih
  | list t ih =>
    refine read_list_eq_ok_iff.trans ?_
    simp only [ih, Reads]
  | pair a b iha ihb =>
    refine read_pair_eq_ok_iff.trans ?_
    simp only [iha, ihb, Reads]
  | triple a b c iha ihb ihc =>
    refine read_triple_eq_ok_iff.trans ?_
    simp only [iha, ihb, ihc, Reads]

/-! ## Misfits -/

/-- The nodes tell what a conversion gives: an answer where none offends, and
otherwise what the first that offends has against its value. -/
inductive Follows {α : Type} (ns : List (HostType × Value)) : Except Misfit α → Prop
  | ok {a : α} (calm : Calm ns) : Follows ns (.ok a)
  | error {e : Misfit} (first : FirstOffence ns e) : Follows ns (.error e)

theorem FirstOffence.append_left {ns ms : List (HostType × Value)} {e : Misfit}
    (h : FirstOffence ns e) : FirstOffence (ns ++ ms) e := by
  induction h with
  | here h => exact .here h
  | later calm _ ih => exact .later calm ih

theorem FirstOffence.append_right {ns ms : List (HostType × Value)} {e : Misfit}
    (calm : Calm ns) (h : FirstOffence ms e) : FirstOffence (ns ++ ms) e := by
  induction ns with
  | nil => exact h
  | cons n ns ih =>
    exact .later (calm n List.mem_cons_self) (ih fun m mem => calm m (List.mem_cons_of_mem _ mem))

/-- Nodes with an offence are not calm. -/
theorem FirstOffence.not_calm {ns : List (HostType × Value)} {e : Misfit}
    (h : FirstOffence ns e) : ¬ Calm ns := by
  induction h with
  | here h => exact fun calm => calm _ List.mem_cons_self _ h
  | later _ _ ih => exact fun calm => ih fun m mem => calm m (List.mem_cons_of_mem _ mem)

namespace Follows

variable {α β : Type} {t : HostType} {v : Value} {ns ms : List (HostType × Value)}

theorem here {e : Misfit} (h : Offends t v e) : Follows ((t, v) :: ns) (.error e : Except _ α) :=
  .error (.here h)

/-- A node that does not offend leaves the matter to those behind it. -/
theorem cons {r : Except Misfit α} (calm : ∀ e, ¬ Offends t v e) (h : Follows ns r) :
    Follows ((t, v) :: ns) r := by
  cases h with
  | ok rest =>
    refine .ok fun n mem => ?_
    rcases List.mem_cons.1 mem with rfl | mem
    · exact calm
    · exact rest n mem
  | error first => exact .error (.later calm first)

theorem map {r : Except Misfit α} (f : α → β) (h : Follows ns r) : Follows ns (r.map f) := by
  cases h with
  | ok calm => exact .ok calm
  | error first => exact .error first

/-- Nodes that do not offend leave the matter to those behind them. -/
theorem append {r : Except Misfit α} (calm : Calm ns) (h : Follows ms r) :
    Follows (ns ++ ms) r := by
  cases h with
  | ok others =>
    refine .ok fun n mem => ?_
    rcases List.mem_append.1 mem with mem | mem
    · exact calm n mem
    · exact others n mem
  | error first => exact .error (first.append_right calm)

/-- One conversion after the other follows the nodes of both. -/
theorem bind {r : Except Misfit α} {k : α → Except Misfit β} (h : Follows ns r)
    (next : ∀ a, Follows ms (k a)) : Follows (ns ++ ms) (r >>= k) := by
  cases h with
  | @ok a calm => exact append calm (next a)
  | error first => exact .error first.append_left

theorem pure {a : α} : Follows [] (Pure.pure a : Except Misfit α) :=
  .ok fun _ mem => absurd mem List.not_mem_nil

/-- What is made of the last answer is no matter. -/
theorem last {r : Except Misfit α} (f : α → β) (h : Follows ns r) :
    Follows ns (r >>= fun a => Pure.pure (f a)) := by
  cases h with
  | ok calm => exact .ok calm
  | error first => exact .error first

/-- Items follow their nodes from left to right. -/
theorem mapM {f : Value → Except Misfit α} {nodesOf : Value → List (HostType × Value)}
    (h : ∀ v, Follows (nodesOf v) (f v)) (items : List Value) :
    Follows (items.flatMap nodesOf) (items.mapM f) := by
  induction items with
  | nil => exact pure
  | cons v items ih =>
    rw [List.mapM_cons, List.flatMap_cons]
    exact (h v).bind fun a => ih.last (List.cons a)

end Follows

/-- A scalar that is no answer has nothing but itself to blame. -/
theorem scalar_follows {t : HostType} {v : Value} (scalar : t.IsScalar) {o : Option t.Carrier}
    (h : t.read v = t.require v o) : Follows [(t, v)] (t.read v) := by
  rw [h]
  cases o with
  | none =>
    refine .here (.scalar scalar fun a related => ?_)
    rw [← read_eq_ok_iff, h] at related
    cases related
  | some a =>
    refine .cons (fun e offends => ?_) .pure
    cases offends with
    | scalar _ no => exact no a (read_eq_ok_iff.1 h)
    | _ => exact scalar

theorem dateTime_follows (v : Value) : Follows [(dateTime, v)] (readDateTime v) := by
  unfold readDateTime
  split
  · next m core =>
    cases found : readMoment m with
    | error kind => exact .here (.raising core (readMoment_eq_error_iff.1 found))
    | ok o =>
      have calm : ∀ kind, ¬ m.Raises kind := fun kind raises => by
        rw [← readMoment_eq_error_iff, found] at raises
        cases raises
      cases o with
      | none =>
        refine .here (.noMoment core calm fun t shows => ?_)
        rw [← readMoment_eq_ok_iff, found] at shows
        cases shows
      | some t =>
        have shows := readMoment_eq_ok_iff.1 found
        refine .cons (fun e offends => ?_) .pure
        cases offends with
        | scalar h => exact h
        | noDate no => exact no m core
        | raising other raises =>
          obtain rfl := Value.dateTime.inj (core.symm.trans other)
          exact calm _ raises
        | noMoment other _ no =>
          obtain rfl := Value.dateTime.inj (core.symm.trans other)
          exact no t shows
  · next no => exact .here (.noDate no)

/-- A value that stands for a cell has nothing against it. -/
theorem CellOf.calm {v : Value} {c : Cell} (h : CellOf v c) (e : Misfit) : ¬ Offends cell v e := by
  intro offends
  cases offends with
  | scalar scalar => exact scalar
  | noCell _ _ no => exact no c h
  | wideInt core no =>
    cases h with
    | @int n other => exact no n (show v.index? = some n.toInt by rw [Value.index?, other])
    | bytes other => rcases other with other | other <;> cases core.symm.trans other
    | _ other => cases core.symm.trans other
  | brokenText core =>
    cases h with
    | bytes other => rcases other with other | other <;> cases core.symm.trans other
    | _ other => cases core.symm.trans other

theorem cell_follows (v : Value) : Follows [(cell, v)] (readCell v) := by
  cases found : readCell v with
  | ok c => exact .cons (readCell_eq_ok_iff.1 found).calm .pure
  | error e =>
    have no : ∀ c, ¬ CellOf v c := fun c related => by
      rw [← readCell_eq_ok_iff, found] at related
      cases related
    unfold readCell at found
    split at found
    case h_3 n core =>
      cases fits : readInt64? v with
      | some a =>
        rw [fits] at found
        cases found
      | none =>
        rw [fits] at found
        obtain rfl := Except.error.inj found
        refine .here (.wideInt core fun a related => ?_)
        exact absurd (fits.symm.trans (readInt64?_eq_some_iff.2 related)) nofun
    case h_6 core =>
      obtain rfl := Except.error.inj found
      exact .here (.brokenText core)
    case h_9 noInt _ _ noText _ _ =>
      split at found
      · cases found
      · obtain rfl := Except.error.inj found
        exact .here (.noCell noInt noText no)
    all_goals cases found

/-- Every conversion follows the nodes of its value. -/
theorem read_follows (t : HostType) (v : Value) : Follows (t.nodes v) (t.read v) := by
  induction t generalizing v with
  | unit =>
    refine scalar_follows (t := unit) trivial (o := if v.isNone then some () else none) ?_
    rw [read]
    cases v.isNone <;> rfl
  | bool => exact scalar_follows (t := bool) trivial rfl
  | int32 => exact scalar_follows (t := int32) trivial rfl
  | int64 => exact scalar_follows (t := int64) trivial rfl
  | float => exact scalar_follows (t := float) trivial rfl
  | text => exact scalar_follows (t := text) trivial rfl
  | bytes => exact scalar_follows (t := bytes) trivial rfl
  | dateTime => exact dateTime_follows v
  | cell => exact cell_follows v
  | option t ih =>
    have calm : ∀ e, ¬ Offends (option t) v e := fun e offends => by
      cases offends with
      | scalar h => exact h
    rw [nodes]
    by_cases outer : v.isNone = true
    · rw [if_pos outer, read_option_of_isNone outer]
      exact .cons calm .pure
    · rw [if_neg outer, read_option_of_not_isNone outer]
      exact .cons calm ((ih v).map _)
  | list t ih =>
    rw [nodes]
    cases found : v.items? with
    | none =>
      rw [read_list_of_none found]
      exact .here (.noItems found)
    | some items =>
      have calm : ∀ e, ¬ Offends (list t) v e := fun e offends => by
        cases offends with
        | scalar h => exact h
        | noItems h => exact absurd (found.symm.trans h) (by simp)
      rw [read_list found]
      exact .cons calm (.mapM ih items)
  | pair a b iha ihb =>
    by_cases found : ∃ x y, v.tupleItems? = some [x, y]
    · obtain ⟨x, y, found⟩ := found
      have calm : ∀ e, ¬ Offends (pair a b) v e := fun e offends => by
        cases offends with
        | scalar h => exact h
        | noPair h => exact h x y found
      rw [read_pair found, nodes, found]
      exact .cons calm ((iha x).bind fun _ => (ihb y).last _)
    · have no := fun x y h => found ⟨x, y, h⟩
      rw [read_pair_of_ne no]
      exact .here (.noPair no)
  | triple a b c iha ihb ihc =>
    by_cases found : ∃ x y z, v.tupleItems? = some [x, y, z]
    · obtain ⟨x, y, z, found⟩ := found
      have calm : ∀ e, ¬ Offends (triple a b c) v e := fun e offends => by
        cases offends with
        | scalar h => exact h
        | noTriple h => exact h x y z found
      rw [read_triple found, nodes, found]
      exact .cons calm ((iha x).bind fun _ => (ihb y).bind fun _ => (ihc z).last _)
    · have no := fun x y z h => found ⟨x, y, z, h⟩
      rw [read_triple_of_ne no]
      exact .here (.noTriple no)

/-! ## One misfit -/

theorem Raises.unique {m : Moment} {kind kind' : String} (h : m.Raises kind)
    (h' : m.Raises kind') : kind = kind' :=
  Except.error.inj ((readMoment_eq_error_iff.2 h).symm.trans (readMoment_eq_error_iff.2 h'))

/-- A node has one thing against its value at most. -/
theorem Offends.unique {t : HostType} {v : Value} {e e' : Misfit} (h : Offends t v e)
    (h' : Offends t v e') : e = e' := by
  cases h with
  | scalar h =>
    cases h' with
    | scalar => rfl
    | _ => cases h
  | noDate no =>
    cases h' with
    | raising core => exact absurd core (no _)
    | scalar h => cases h
    | _ => rfl
  | raising core raises =>
    cases h' with
    | scalar h => cases h
    | noDate no => exact absurd core (no _)
    | raising core' raises' =>
      obtain rfl := Value.dateTime.inj (core.symm.trans core')
      exact congrArg Misfit.raised (Raises.unique raises raises')
    | noMoment core' calm =>
      obtain rfl := Value.dateTime.inj (core.symm.trans core')
      exact absurd raises (calm _)
  | noMoment core calm =>
    cases h' with
    | scalar h => cases h
    | raising core' raises =>
      obtain rfl := Value.dateTime.inj (core.symm.trans core')
      exact absurd raises (calm _)
    | _ => rfl
  | wideInt core =>
    cases h' with
    | scalar h => cases h
    | wideInt => rfl
    | brokenText core' => cases core.symm.trans core'
    | noCell noInt => exact absurd core (noInt _)
  | brokenText core =>
    cases h' with
    | scalar h => cases h
    | brokenText => rfl
    | wideInt core' => cases core.symm.trans core'
    | noCell _ noText => exact absurd core noText
  | noCell noInt noText =>
    cases h' with
    | scalar h => cases h
    | noCell => rfl
    | wideInt core => exact absurd core (noInt _)
    | brokenText core => exact absurd core noText
  | noItems | noPair | noTriple =>
    cases h' with
    | scalar h => cases h
    | _ => rfl

theorem FirstOffence.unique {ns : List (HostType × Value)} {e e' : Misfit}
    (h : FirstOffence ns e) (h' : FirstOffence ns e') : e = e' := by
  induction h with
  | here h =>
    cases h' with
    | here h' => exact h.unique h'
    | later calm => exact absurd h (calm _)
  | later calm _ ih =>
    cases h' with
    | here h' => exact absurd h' (calm _)
    | later _ h' => exact ih h'

/-- A conversion fails with what the first node that offends has against its
value. -/
theorem read_eq_error_iff {t : HostType} {v : Value} {e : Misfit} :
    t.read v = .error e ↔ FirstOffence (t.nodes v) e := by
  have follows := read_follows t v
  constructor
  · intro h
    rw [h] at follows
    cases follows with
    | error first => exact first
  · intro h
    cases found : t.read v with
    | ok r =>
      rw [found] at follows
      cases follows with
      | ok calm => exact absurd calm h.not_calm
    | error e' =>
      rw [found] at follows
      cases follows with
      | error first => rw [first.unique h]

/-- The text comes later than the first misfit. -/
example :
    (list (pair int32 text)).read (.list [.tuple [.int 1, .str "a"], .tuple [.none, .int 2]]) =
    .error (.cast .int32 "NoneType") := rfl

end HostType

/-! ## The conversions -/

/-- The value is read as what the cell holds when a value of its kind is asked for.
Only integers are asked for as integers, and only doubles as doubles. -/
def Cell.IsReadFrom (v : Value) : Cell → Prop
  | null => HostType.unit.read v = .ok ()
  | bool b => HostType.bool.read v = .ok b
  | int n => (∃ k, v.core = .int k) ∧ HostType.int64.read v = .ok n
  | float x => (∃ y, v.core = .float y) ∧ HostType.float.read v = .ok x
  | text s => HostType.text.read v = .ok s
  | bytes o => HostType.bytes.read v = .ok o
  | dateTime t => HostType.dateTime.read v = .ok t

theorem HostType.readCell_eq_ok_iff_isReadFrom {v : Value} {c : Cell} :
    readCell v = .ok c ↔ c.IsReadFrom v := by
  rw [readCell_eq_ok_iff]
  constructor
  · intro h
    cases h with
    | @int n core =>
      exact ⟨⟨_, core⟩, read_eq_ok_iff.2 (show v.index? = some n.toInt by rw [Value.index?, core])⟩
    | @float x core =>
      exact ⟨⟨_, core⟩, read_eq_ok_iff.2 (show v.real? = some x by rw [Value.real?, core])⟩
    | dateTime core shows => exact read_eq_ok_iff.2 ⟨_, core, shows⟩
    | _ core => exact read_eq_ok_iff.2 core
  · intro h
    cases c with
    | null => exact .null (read_eq_ok_iff.1 h)
    | bool b => exact .bool (read_eq_ok_iff.1 h)
    | int n =>
      obtain ⟨⟨k, core⟩, h⟩ := h
      have index : v.index? = some n.toInt := read_eq_ok_iff.1 h
      rw [Value.index?, core] at index
      exact .int (core.trans (congrArg Value.int (Option.some.inj index)))
    | float x =>
      obtain ⟨⟨y, core⟩, h⟩ := h
      have real : v.real? = some x := read_eq_ok_iff.1 h
      rw [Value.real?, core] at real
      exact .float (core.trans (congrArg Value.float (Option.some.inj real)))
    | text s => exact .text (read_eq_ok_iff.1 h)
    | bytes o => exact .bytes (read_eq_ok_iff.1 h)
    | dateTime t =>
      obtain ⟨m, core, shows⟩ := read_eq_ok_iff.1 h
      exact .dateTime core shows

/-- What is promised of conversions. -/
structure Converts : Prop where
  /-- They give what the value is related to, and nothing else. -/
  answer : ∀ (t : HostType) (v : Value) (r : t.Carrier), t.read v = .ok r ↔ t.Reads v r
  /-- They fail with what the first node that offends has against its value. -/
  misfit : ∀ (t : HostType) (v : Value) (e : Misfit),
    t.read v = .error e ↔ HostType.FirstOffence (t.nodes v) e
  /-- Nothing is read as nothing on the outermost level. -/
  outermost : ∀ (t : HostType) (v : Value),
    ¬ (HostType.option (.option t)).Reads v (some (none : Option t.Carrier))
  /-- The same holds of cells. -/
  no_null : ∀ v : Value, ¬ (HostType.option .cell).Reads v (some Cell.null)
  /-- A cell is what its own type reads. -/
  cell : ∀ (v : Value) (c : Cell), HostType.cell.read v = .ok c ↔ c.IsReadFrom v

/-- Every conversion follows its relation. -/
theorem every_type_converts : Converts where
  answer _ _ _ := HostType.read_eq_ok_iff
  misfit _ _ _ := HostType.read_eq_error_iff
  outermost _ _ h := h.1 h.2
  no_null v h := by
    obtain ⟨outer, inner⟩ := h
    cases inner with
    | null core => exact outer core
  cell _ _ := HostType.readCell_eq_ok_iff_isReadFrom

end EmbeddedPython
