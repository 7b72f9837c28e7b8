import EmbeddedPython.Proofs.Version.Roots

/-!
# Canonical numbers

The scale of a minor number is the power of ten with as many zeros as the number has
digits, and the search for it takes one round less than that (`Version.scaling_digits`).
So the canonical number is the number whose digits are those of the major and those of
the minor number (`Version.canonical_eq_ok_iff`).  A root that ends in these digits
names the version again, if its major number has one digit
(`Version.ofRoot_of_canonical`).
-/

namespace EmbeddedPython.Version

open Numeral

/-! ## Rounds of the search for a scale -/

/-- The search for a scale above a minor number starts at a scale, takes so many rounds
and comes to an end.  A round multiplies the scale by ten, or fails to. -/
inductive Scaling (minor : UInt32) : UInt32 → Nat → Except Overflow UInt32 → Prop
  | above {scale : UInt32} (h : minor < scale) : Scaling minor scale 0 (.ok scale)
  | round {scale next : UInt32} {rounds : Nat} {r : Except Overflow UInt32}
      (h : ¬minor < scale) (grown : product scale 10 = .ok next)
      (rest : Scaling minor next rounds r) : Scaling minor scale (rounds + 1) r
  | overflow {scale : UInt32} {o : Overflow} (h : ¬minor < scale)
      (fails : product scale 10 = .error o) : Scaling minor scale 1 (.error o)

theorem exists_scaling (minor scale : UInt32) (positive : 0 < scale.toNat) :
    ∃ rounds, Scaling minor scale rounds (scaleFrom minor scale positive) := by
  fun_induction scaleFrom minor scale positive with
  | case1 scale positive h => exact ⟨0, .above h⟩
  | case2 scale positive h o fails => exact ⟨1, .overflow h fails⟩
  | case3 scale positive h next grown ten ih =>
    obtain ⟨rounds, rest⟩ := ih
    exact ⟨rounds + 1, .round h grown rest⟩

/-- The search has one course. -/
theorem Scaling.unique {minor scale : UInt32} {n k : Nat} {r s : Except Overflow UInt32}
    (one : Scaling minor scale n r) (other : Scaling minor scale k s) : n = k ∧ r = s := by
  induction one generalizing k s with
  | above h =>
    cases other with
    | above _ => exact ⟨rfl, rfl⟩
    | round h' _ _ => exact absurd h h'
    | overflow h' _ => exact absurd h h'
  | round h grown rest ih =>
    cases other with
    | above h' => exact absurd h' h
    | round _ grown' rest' =>
      obtain rfl := Except.ok.inj (grown.symm.trans grown')
      obtain ⟨rfl, rfl⟩ := ih rest'
      exact ⟨rfl, rfl⟩
    | overflow _ fails => cases grown.symm.trans fails
  | overflow h fails =>
    cases other with
    | above h' => exact absurd h' h
    | round _ grown _ => cases fails.symm.trans grown
    | overflow _ fails' =>
      obtain rfl := Except.error.inj (fails.symm.trans fails')
      exact ⟨rfl, rfl⟩

/-! ## The scale of a minor number -/

variable {minor scale : UInt32}

theorem product_of_le {a b : UInt32} (h : UInt32.size ≤ a.toNat * b.toNat) :
    product a b = .error .multiply := if_neg (by omega)

/-- The next scale, if 32 bits hold it. -/
theorem exists_next (h : scale.toNat * 10 < UInt32.size) :
    ∃ next, product scale 10 = .ok next ∧ next.toNat = scale.toNat * 10 := by
  have grown : product scale 10 = .ok (scale * 10) := if_pos h
  exact ⟨_, grown, product_eq_ok_iff.1 grown⟩

/-- From a power of ten on, a number of at most nine digits gets to the power with as
many zeros as it has digits. -/
theorem scaling_digits {k : Nat} (small : minor.toNat < 10 ^ 9) (positive : 0 < k)
    (power : scale.toNat = 10 ^ k) (le : k ≤ (decimal minor.toNat).length) :
    ∃ s, Scaling minor scale ((decimal minor.toNat).length - k) (.ok s) ∧
      s.toNat = 10 ^ (decimal minor.toNat).length := by
  have nine : (decimal minor.toNat).length ≤ 9 := by
    by_contra more
    have large := pow_le_of_lt_length (by decide) (Nat.lt_of_not_le more)
    omega
  obtain ⟨rounds, digits⟩ : ∃ rounds, (decimal minor.toNat).length = k + rounds :=
    Nat.exists_eq_add_of_le le
  rw [digits, Nat.add_sub_cancel_left]
  induction rounds generalizing k scale with
  | zero =>
    have above := lt_pow_length minor.toNat
    rw [digits, Nat.add_zero, ← power] at above
    exact ⟨scale, .above (UInt32.lt_iff_toNat_lt.2 above), power⟩
  | succ rounds ih =>
    have below : 10 ^ k ≤ minor.toNat := pow_le_of_lt_length positive (by omega)
    have bound : 10 ^ (k + 1) ≤ 10 ^ 9 := Nat.pow_le_pow_right (by decide) (by omega)
    rw [pow_succ, ← power] at bound
    have fits : scale.toNat * 10 < UInt32.size := Nat.lt_of_le_of_lt bound (by decide)
    obtain ⟨next, grown, ten⟩ := exists_next fits
    have power' : next.toNat = 10 ^ (k + 1) := by rw [ten, power, pow_succ]
    obtain ⟨s, rest, value⟩ := ih (by omega) power' (by omega) (by omega)
    refine ⟨s, .round ?_ grown rest, ?_⟩
    · rw [UInt32.lt_iff_toNat_lt]
      omega
    · rw [value]
      congr 1
      omega

/-- A number of ten digits gets to no scale. -/
theorem scaling_overflow {k : Nat} (large : 10 ^ 9 ≤ minor.toNat) (power : scale.toNat = 10 ^ k)
    (le : k ≤ 9) : Scaling minor scale (10 - k) (.error .multiply) := by
  obtain ⟨rounds, rest⟩ : ∃ rounds, 9 = k + rounds := Nat.exists_eq_add_of_le le
  have count : 10 - k = rounds + 1 := by omega
  rw [count]
  clear count
  induction rounds generalizing k scale with
  | zero =>
    obtain rfl : k = 9 := by omega
    refine .overflow ?_ (product_of_le ?_)
    · rw [UInt32.lt_iff_toNat_lt]
      omega
    · rw [power]
      decide
  | succ rounds ih =>
    have bound : 10 ^ (k + 1) ≤ 10 ^ 9 := Nat.pow_le_pow_right (by decide) (by omega)
    rw [pow_succ, ← power] at bound
    have fits : scale.toNat * 10 < UInt32.size := Nat.lt_of_le_of_lt bound (by decide)
    obtain ⟨next, grown, ten⟩ := exists_next fits
    have power' : next.toNat = 10 ^ (k + 1) := by rw [ten, power, pow_succ]
    refine .round ?_ grown (ih power' (by omega) (by omega))
    rw [UInt32.lt_iff_toNat_lt]
    omega

theorem ten_positive : 0 < (10 : UInt32).toNat := by decide

/-- The search that a canonical number starts with. -/
abbrev scaleOf (minor : UInt32) : Except Overflow UInt32 := scaleFrom minor 10 ten_positive

theorem scaleOf_of_lt (small : minor.toNat < 10 ^ 9) :
    ∃ s, scaleOf minor = .ok s ∧ s.toNat = 10 ^ (decimal minor.toNat).length ∧
      Scaling minor 10 ((decimal minor.toNat).length - 1) (.ok s) := by
  have ten : (10 : UInt32).toNat = 10 ^ 1 := rfl
  obtain ⟨s, course, value⟩ :=
    scaling_digits small (by decide) ten (length_decimal_pos minor.toNat)
  obtain ⟨rounds, found⟩ := exists_scaling minor 10 ten_positive
  exact ⟨s, (found.unique course).2, value, course⟩

theorem scaleOf_of_le (large : 10 ^ 9 ≤ minor.toNat) : scaleOf minor = .error .multiply := by
  obtain ⟨rounds, found⟩ := exists_scaling minor 10 ten_positive
  exact (found.unique (scaling_overflow (k := 1) large rfl (by decide))).2

/-! ## Canonical numbers -/

theorem canonical_eq_ok_iff {major minor c : UInt32} :
    canonical ⟨major, some minor⟩ = .ok c ↔ minor.toNat < 10 ^ 9 ∧
      c.toNat = major.toNat * 10 ^ (decimal minor.toNat).length + minor.toNat := by
  have course : canonical ⟨major, some minor⟩ =
      (scaleOf minor).bind fun scale => (product major scale).bind fun shifted =>
        sum shifted minor := rfl
  rw [course]
  by_cases small : minor.toNat < 10 ^ 9
  · obtain ⟨s, found, value, -⟩ := scaleOf_of_lt small
    rw [found, ← value]
    simp only [Except.bind, small, true_and]
    constructor
    · intro h
      cases shifted : product major s with
      | error o =>
        rw [shifted] at h
        cases h
      | ok p =>
        rw [shifted] at h
        rw [sum_eq_ok_iff.1 h, product_eq_ok_iff.1 shifted]
    · intro same
      have fits : major.toNat * s.toNat < UInt32.size := by
        have bound : c.toNat < UInt32.size := c.toNat_lt
        omega
      have shifted : product major s = .ok (major * s) := if_pos fits
      rw [shifted]
      dsimp only
      rw [sum_eq_ok_iff, same, product_eq_ok_iff.1 shifted]
  · rw [scaleOf_of_le (by omega)]
    exact iff_of_false nofun fun h => small h.1

/-- The digits of a version: those of the major and those of the minor number. -/
def digits (v : Version) : List Char :=
  decimal v.major.toNat ++ match v.minor with
    | some minor => decimal minor.toNat
    | none => []

theorem valueOf_digits {v : Version} {c : UInt32} (h : canonical v = .ok c) :
    c.toNat = valueOf (digits v) := by
  obtain ⟨major, minor⟩ := v
  cases minor with
  | none =>
    obtain rfl : major = c := Except.ok.inj h
    rw [digits, List.append_nil, valueOf_decimal]
  | some minor =>
    rw [digits, valueOf_join, valueOf_decimal, valueOf_decimal]
    exact (canonical_eq_ok_iff.1 h).2

/-- The canonical number has the digits of its version. -/
theorem decimal_of_canonical {v : Version} {c : UInt32} (positive : 1 ≤ v.major.toNat)
    (h : canonical v = .ok c) : decimal c.toNat = digits v := by
  obtain ⟨major, minor⟩ := v
  cases minor with
  | none =>
    obtain rfl : major = c := Except.ok.inj h
    rw [digits, List.append_nil]
  | some minor =>
    rw [(canonical_eq_ok_iff.1 h).2]
    exact decimal_join positive minor.toNat

/-! ## Back to the version -/

theorem not_hasMarker_of_digits {cs : List Char} (h : ∀ c ∈ cs, isDigit c = true) :
    ¬HasMarker cs := by
  rintro ⟨front, word, rest, rfl, isMarker⟩
  have length := isMarker.length
  cases word with
  | nil => cases length
  | cons c word =>
    have lower : c.toLower = 'p' := (List.cons.inj isMarker).1
    have digit : isDigit c = true := h c (by simp)
    rw [← digit_digitValue digit] at lower
    have none : ∀ n < 10, (Numeral.digit n).toLower ≠ 'p' := by decide
    exact none _ (digitValue_lt digit) lower

/-- Digits behind the last marker are the name. -/
theorem names_of_digits {root : Path} {front word cs : List Char} (isMarker : IsMarker word)
    (text : root.display.toList = front ++ word ++ cs) (h : ∀ c ∈ cs, isDigit c = true) :
    Names root cs := by
  have separators : ∀ c, isDigit c = true → isSeparator c = false := by
    intro c digit
    have none : ∀ n < 10, isSeparator (Numeral.digit n) = false := by decide
    rw [← digit_digitValue digit]
    exact none _ (digitValue_lt digit)
  refine ⟨front, word, [], by simpa using text, isMarker, fun c mem => separators c (h c mem),
    nofun, ?_⟩
  rw [List.append_nil]
  exact not_hasMarker_of_digits h

theorem isNumeric_of_digits {digit : Char} {more : List Char}
    (h : ∀ c ∈ digit :: more, isDigit c = true) : IsNumeric (digit :: more) (digit :: more) := by
  refine ⟨[], [], by simp, nofun, ⟨digit, rfl, h digit List.mem_cons_self⟩, ?_, nofun⟩
  intro c mem
  rw [h c mem]
  rfl

theorem isDigit_of_mem_digits (v : Version) : ∀ c ∈ digits v, isDigit c = true := by
  intro c mem
  rcases List.mem_append.1 mem with mem | mem
  · exact isDigit_of_mem_decimal _ c mem
  · cases minor : v.minor with
    | none =>
      rw [minor] at mem
      cases mem
    | some number =>
      rw [minor] at mem
      exact isDigit_of_mem_decimal _ c mem

/-- The digits of a version are read as that version, if its major number has one. -/
theorem ofName_digits (root : String) {v : Version} (small : v.major.toNat ≤ 9) :
    ofName root (digits v) = .ok v := by
  have all := isDigit_of_mem_digits v
  obtain ⟨major, minor⟩ := v
  have first : decimal major.toNat = [digit major.toNat] :=
    decimal_of_lt (Nat.lt_of_le_of_lt small (by decide))
  have value : UInt32.ofNat (digitValue (digit major.toNat)) = major := by
    rw [digitValue_digit _ (Nat.lt_of_le_of_lt small (by decide))]
    exact UInt32.ofNat_toNat
  have undotted : '.' ∉ digits ⟨major, minor⟩ := by
    intro dot
    exact absurd (all '.' dot) (by decide)
  unfold digits at all undotted ⊢
  rw [first, List.singleton_append] at all undotted ⊢
  have row := isNumeric_of_digits all
  have reads := reads_ofName root
  cases minor with
  | none =>
    have single := (reads [digit major.toNat]).single row fun dot => undotted (by simp [dot])
    rwa [value] at single
  | some minor =>
    dsimp only at row undotted ⊢
    have several := ((reads _).several row undotted (decimal_ne_nil _)).1
    rw [valueOf_decimal] at several
    rw [several minor.toNat_lt, value, UInt32.ofNat_toNat]

theorem ofRoot_of_canonical {v : Version} {c : UInt32} {root : Path} {front word : List Char}
    (least : 1 ≤ v.major.toNat) (most : v.major.toNat ≤ 9) (h : canonical v = .ok c)
    (isMarker : IsMarker word) (text : root.display.toList = front ++ word ++ decimal c.toNat) :
    ofRoot root = .ok v := by
  rw [decimal_of_canonical least h] at text
  rw [ofRoot_of_names (names_of_digits isMarker text (isDigit_of_mem_digits v))]
  exact ofName_digits root.display most

/-- There is a canonical number exactly if the minor number has at most nine digits and
32 bits hold the two numbers run together, and that is the number.  A root that ends in
its digits names the version again. -/
theorem canonical_is_concatenation :
    (∀ major : UInt32, canonical ⟨major, none⟩ = .ok major) ∧
    (∀ major minor : UInt32,
      ((∃ c, canonical ⟨major, some minor⟩ = .ok c) ↔ minor.toNat < 10 ^ 9 ∧
        major.toNat * 10 ^ (decimal minor.toNat).length + minor.toNat ≤ 2 ^ 32 - 1) ∧
      ∀ c, canonical ⟨major, some minor⟩ = .ok c →
        c.toNat = valueOf (decimal major.toNat ++ decimal minor.toNat)) ∧
    (∀ minor s : UInt32, scaleOf minor = .ok s → ∃ rounds ≤ 9, Scaling minor 10 rounds (.ok s)) ∧
    ∀ v c, 1 ≤ v.major.toNat → v.major.toNat ≤ 9 → canonical v = .ok c →
      (∀ (root : Path) (front word : List Char), IsMarker word →
        root.display.toList = front ++ word ++ decimal c.toNat → ofRoot root = .ok v) ∧
      ∀ w, 1 ≤ w.major.toNat → w.major.toNat ≤ 9 → canonical w = .ok c → w = v := by
  refine ⟨fun _ => rfl, fun major minor => ⟨⟨?_, ?_⟩, fun c h => valueOf_digits h⟩,
    fun minor s found => ?_, fun v c least most h => ⟨?_, fun w least' most' h' => ?_⟩⟩
  · rintro ⟨c, h⟩
    obtain ⟨small, value⟩ := canonical_eq_ok_iff.1 h
    have bound : c.toNat < UInt32.size := c.toNat_lt
    exact ⟨small, by rw [← value]; exact Nat.le_pred_of_lt bound⟩
  · rintro ⟨small, bound⟩
    refine ⟨UInt32.ofNat _, canonical_eq_ok_iff.2 ⟨small, UInt32.toNat_ofNat_of_lt' ?_⟩⟩
    exact Nat.lt_of_le_of_lt bound (by decide)
  · by_cases small : minor.toNat < 10 ^ 9
    · obtain ⟨t, found', -, course⟩ := scaleOf_of_lt small
      obtain rfl : t = s := Except.ok.inj (found'.symm.trans found)
      refine ⟨_, ?_, course⟩
      have nine : (decimal minor.toNat).length ≤ 10 := by
        by_contra more
        have large := pow_le_of_lt_length (by decide) (Nat.lt_of_not_le more)
        omega
      omega
    · rw [scaleOf_of_le (by omega)] at found
      cases found
  · intro root front word isMarker text
    exact ofRoot_of_canonical least most h isMarker text
  · -- Both are what the root of the marker and these digits names.
    let root : Path := Path.ofText (String.ofList (marker ++ decimal c.toNat))
    have text : root.display.toList = [] ++ marker ++ decimal c.toNat := by
      have shown : root.display = String.ofList (marker ++ decimal c.toNat) :=
        Octets.lossy_ofText _
      rw [shown, String.toList_ofList, List.nil_append]
    have isMarker : IsMarker marker := by decide
    have named := ofRoot_of_canonical least most h isMarker text
    have named' := ofRoot_of_canonical least' most' h' isMarker text
    exact Except.ok.inj (named'.symm.trans named)

/-- A minor number that is a power of ten keeps its zero. -/
theorem canonical_of_ten :
    canonical ⟨3, some 10⟩ = .ok 310 ∧
      ofRoot (Path.ofText "/opt/python2/PYTHON310") = .ok ⟨3, some 10⟩ ∧
      ∀ w : Version, w.major = 3 → canonical w = .ok 310 → w = ⟨3, some 10⟩ := by
  have ten : canonical ⟨3, some 10⟩ = .ok 310 := canonical_eq_ok_iff.2 (by decide +kernel)
  obtain ⟨-, -, -, back⟩ := canonical_is_concatenation
  obtain ⟨named, unique⟩ := back ⟨3, some 10⟩ 310 (by decide) (by decide) ten
  refine ⟨ten, named _ "/opt/python2/".toList "PYTHON".toList (by decide) (by decide +kernel), ?_⟩
  intro w major h
  exact unique w (by rw [major]; decide) (by rw [major]; decide) h

end EmbeddedPython.Version
