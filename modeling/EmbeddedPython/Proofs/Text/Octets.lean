import EmbeddedPython.Text.Octets

/-!
# Texts as octet strings

Writing a text and reading octets undo each other (`text?_ofText` and
`ofText_of_text?`).  Both directions hold for a single character first: the
form of a character is one chunk (`exists_encodeChar_eq`), and a chunk that is
a character is its form (`encodeChar_of_nextChunk`).
-/

namespace EmbeddedPython

namespace Octets

theorem toNat_ofNat_of_valid {n : Nat} (h : n.isValidChar) : (Char.ofNat n).toNat = n := by
  unfold Char.ofNat
  rw [dif_pos h]
  rfl

theorem toNat_octet {n : Nat} (h : n < 0x100) : n.toUInt8.toNat = n := by
  rw [Nat.toUInt8, UInt8.toNat_ofNat_of_lt' h]

theorem octet_of_toNat {b : UInt8} {n : Nat} (h : b.toNat = n) : n.toUInt8 = b := by
  subst h
  exact UInt8.ofNat_toNat

/-! ## Octets of a text -/

/-- The octets below 0x80 are characters. -/
theorem mem_encodeChar_iff {b : UInt8} (ascii : b < 0x80) {c : Char} :
    b ∈ encodeChar c ↔ c.toNat = b.toNat := by
  have small : b.toNat < 0x80 := UInt8.lt_iff_toNat_lt.1 ascii
  have octet {n : Nat} (h : n < 0x100) : b = n.toUInt8 ↔ b.toNat = n := by
    rw [← UInt8.toNat_inj, toNat_octet h]
  have below : c.toNat < 0x110000 := by
    have valid : c.toNat.isValidChar := c.valid
    unfold Nat.isValidChar at valid
    omega
  unfold encodeChar
  dsimp only
  split
  · rw [List.mem_singleton, octet (by omega)]
    omega
  · split
    · simp only [List.mem_cons, List.not_mem_nil, or_false]
      rw [octet (by omega), octet (by omega)]
      omega
    · split
      · simp only [List.mem_cons, List.not_mem_nil, or_false]
        rw [octet (by omega), octet (by omega), octet (by omega)]
        omega
      · simp only [List.mem_cons, List.not_mem_nil, or_false]
        rw [octet (by omega), octet (by omega), octet (by omega), octet (by omega)]
        omega

theorem mem_ofText_iff {b : UInt8} (ascii : b < 0x80) {s : String} :
    b ∈ ofText s ↔ ∃ c ∈ s.toList, c.toNat = b.toNat := by
  simp only [ofText, List.mem_flatMap, mem_encodeChar_iff ascii]

theorem ofText_append (s t : String) : ofText (s ++ t) = ofText s ++ ofText t := by
  rw [ofText, String.toList_append, List.flatMap_append]
  rfl

/-! ## Sequences of one character -/

theorem isContinuation_iff {b : UInt8} :
    isContinuation b = true ↔ 0x80 ≤ b.toNat ∧ b.toNat ≤ 0xBF := by
  simp only [isContinuation, Bool.and_eq_true, decide_eq_true_eq, UInt8.le_iff_toNat_le]
  rfl

theorem isSecond_iff {a b : UInt8} : isSecond a b = true ↔
    0x80 ≤ b.toNat ∧ b.toNat ≤ 0xBF ∧ (a.toNat = 0xE0 → 0xA0 ≤ b.toNat) ∧
      (a.toNat = 0xED → b.toNat ≤ 0x9F) ∧ (a.toNat = 0xF0 → 0x90 ≤ b.toNat) ∧
      (a.toNat = 0xF4 → b.toNat ≤ 0x8F) := by
  unfold isSecond isContinuation
  simp only [← UInt8.toNat_inj, UInt8.le_iff_toNat_le, UInt8.reduceToNat]
  grind

theorem between_iff {low high b : UInt8} :
    (low ≤ b && b ≤ high) = true ↔ low.toNat ≤ b.toNat ∧ b.toNat ≤ high.toNat := by
  simp only [Bool.and_eq_true, decide_eq_true_eq, UInt8.le_iff_toNat_le]

/-- An octet above a range is not in it. -/
theorem not_between {low high b : UInt8} (above : high.toNat < b.toNat) :
    ¬(low ≤ b && b ≤ high) = true := by
  rw [between_iff]
  omega

theorem not_ascii {b : UInt8} (above : 0x80 ≤ b.toNat) : ¬b < 0x80 :=
  fun below => absurd (UInt8.lt_iff_toNat_lt.1 below) (Nat.not_lt.2 above)

section Chunks

variable {a b c d : UInt8} (rest : Octets)

theorem nextChunk_one (small : a.toNat < 0x80) :
    nextChunk a rest = (.scalar (Char.ofNat a.toNat), 0) := by
  unfold nextChunk
  rw [if_pos (UInt8.lt_iff_toNat_lt.2 small)]

theorem nextChunk_two (least : 0xC2 ≤ a.toNat) (most : a.toNat ≤ 0xDF)
    (next : isContinuation b = true) :
    nextChunk a (b :: rest) = (.scalar (Char.ofNat (a.toNat % 0x20 * 0x40 + low b)), 1) := by
  have two : (0xC2 ≤ a && a ≤ 0xDF) = true := between_iff.2 ⟨least, most⟩
  unfold nextChunk
  rw [if_neg (not_ascii (by omega)), if_pos two]
  dsimp only
  rw [if_pos next]

theorem nextChunk_three (least : 0xE0 ≤ a.toNat) (most : a.toNat ≤ 0xEF)
    (next : isSecond a b = true) (last : isContinuation c = true) :
    nextChunk a (b :: c :: rest) =
      (.scalar (Char.ofNat (a.toNat % 0x10 * 0x1000 + low b * 0x40 + low c)), 2) := by
  have notTwo : ¬(0xC2 ≤ a && a ≤ 0xDF) = true := not_between least
  have three : (0xE0 ≤ a && a ≤ 0xEF) = true := between_iff.2 ⟨least, most⟩
  unfold nextChunk
  rw [if_neg (not_ascii (by omega)), if_neg notTwo, if_pos three]
  dsimp only
  rw [if_pos next, if_pos last]

theorem nextChunk_four (least : 0xF0 ≤ a.toNat) (most : a.toNat ≤ 0xF4)
    (next : isSecond a b = true) (third : isContinuation c = true)
    (last : isContinuation d = true) :
    nextChunk a (b :: c :: d :: rest) =
      (.scalar (Char.ofNat
        (a.toNat % 0x08 * 0x40000 + low b * 0x1000 + low c * 0x40 + low d)), 3) := by
  have above : 0xDF < a.toNat := by omega
  have notTwo : ¬(0xC2 ≤ a && a ≤ 0xDF) = true := not_between above
  have notThree : ¬(0xE0 ≤ a && a ≤ 0xEF) = true := not_between least
  have four : (0xF0 ≤ a && a ≤ 0xF4) = true := between_iff.2 ⟨least, most⟩
  unfold nextChunk
  rw [if_neg (not_ascii (by omega)), if_neg notTwo, if_neg notThree, if_pos four]
  dsimp only
  rw [if_pos next, if_pos third, if_pos last]

end Chunks

/-- The form of a character is read as that character. -/
theorem exists_encodeChar_eq (c : Char) (rest : Octets) : ∃ first more,
    encodeChar c = first :: more ∧ nextChunk first (more ++ rest) = (.scalar c, more.length) := by
  have valid : c.toNat.isValidChar := c.valid
  have whole {n : Nat} (h : n = c.toNat) : Char.ofNat n = c := h ▸ Char.ofNat_toNat c
  unfold Nat.isValidChar at valid
  generalize number : c.toNat = n at valid whole
  unfold encodeChar
  rw [number]
  dsimp only
  split
  · next small =>
    have a : n.toUInt8.toNat = n := toNat_octet (by omega)
    refine ⟨_, _, rfl, ?_⟩
    rw [List.nil_append, nextChunk_one rest (by omega), whole (by omega)]
    rfl
  · split
    · have a : (0xC0 + n / 0x40).toUInt8.toNat = 0xC0 + n / 0x40 := toNat_octet (by omega)
      have b : (0x80 + n % 0x40).toUInt8.toNat = 0x80 + n % 0x40 := toNat_octet (by omega)
      refine ⟨_, _, rfl, ?_⟩
      rw [List.cons_append, nextChunk_two _ (by omega) (by omega) (isContinuation_iff.2 (by omega)),
        low, whole (by omega)]
      rfl
    · split
      · have a : (0xE0 + n / 0x1000).toUInt8.toNat = 0xE0 + n / 0x1000 := toNat_octet (by omega)
        have b : (0x80 + n / 0x40 % 0x40).toUInt8.toNat = 0x80 + n / 0x40 % 0x40 :=
          toNat_octet (by omega)
        have c : (0x80 + n % 0x40).toUInt8.toNat = 0x80 + n % 0x40 := toNat_octet (by omega)
        refine ⟨_, _, rfl, ?_⟩
        rw [List.cons_append, List.cons_append, nextChunk_three _ (by omega) (by omega)
          (isSecond_iff.2 (by omega)) (isContinuation_iff.2 (by omega)), low, low,
          whole (by omega)]
        rfl
      · have a : (0xF0 + n / 0x40000).toUInt8.toNat = 0xF0 + n / 0x40000 := toNat_octet (by omega)
        have b : (0x80 + n / 0x1000 % 0x40).toUInt8.toNat = 0x80 + n / 0x1000 % 0x40 :=
          toNat_octet (by omega)
        have c : (0x80 + n / 0x40 % 0x40).toUInt8.toNat = 0x80 + n / 0x40 % 0x40 :=
          toNat_octet (by omega)
        have d : (0x80 + n % 0x40).toUInt8.toNat = 0x80 + n % 0x40 := toNat_octet (by omega)
        refine ⟨_, _, rfl, ?_⟩
        rw [List.cons_append, List.cons_append, List.cons_append, nextChunk_four _ (by omega)
          (by omega) (isSecond_iff.2 (by omega)) (isContinuation_iff.2 (by omega))
          (isContinuation_iff.2 (by omega)), low, low, low, whole (by omega)]
        rfl


theorem encodeChar_one {a : UInt8} (small : a.toNat < 0x80) :
    encodeChar (Char.ofNat a.toNat) = [a] := by
  unfold encodeChar
  rw [toNat_ofNat_of_valid (Or.inl (by omega))]
  dsimp only
  rw [if_pos small, octet_of_toNat rfl]

theorem encodeChar_two {a b : UInt8} (least : 0xC2 ≤ a.toNat) (most : a.toNat ≤ 0xDF)
    (next : isContinuation b = true) :
    encodeChar (Char.ofNat (a.toNat % 0x20 * 0x40 + low b)) = [a, b] := by
  have next := isContinuation_iff.1 next
  unfold encodeChar low
  rw [toNat_ofNat_of_valid (Or.inl (by omega))]
  dsimp only
  rw [if_neg (by omega), if_pos (by omega), octet_of_toNat (b := a) (by omega),
    octet_of_toNat (b := b) (by omega)]

theorem encodeChar_three {a b c : UInt8} (least : 0xE0 ≤ a.toNat) (most : a.toNat ≤ 0xEF)
    (next : isSecond a b = true) (last : isContinuation c = true) :
    encodeChar (Char.ofNat (a.toNat % 0x10 * 0x1000 + low b * 0x40 + low c)) = [a, b, c] := by
  have next := isSecond_iff.1 next
  have last := isContinuation_iff.1 last
  unfold encodeChar low
  rw [toNat_ofNat_of_valid (by unfold Nat.isValidChar; omega)]
  dsimp only
  rw [if_neg (by omega), if_neg (by omega), if_pos (by omega),
    octet_of_toNat (b := a) (by omega), octet_of_toNat (b := b) (by omega),
    octet_of_toNat (b := c) (by omega)]

theorem encodeChar_four {a b c d : UInt8} (least : 0xF0 ≤ a.toNat) (most : a.toNat ≤ 0xF4)
    (next : isSecond a b = true) (third : isContinuation c = true)
    (last : isContinuation d = true) :
    encodeChar (Char.ofNat
      (a.toNat % 0x08 * 0x40000 + low b * 0x1000 + low c * 0x40 + low d)) = [a, b, c, d] := by
  have next := isSecond_iff.1 next
  have third := isContinuation_iff.1 third
  have last := isContinuation_iff.1 last
  unfold encodeChar low
  rw [toNat_ofNat_of_valid (by unfold Nat.isValidChar; omega)]
  dsimp only
  rw [if_neg (by omega), if_neg (by omega), if_neg (by omega),
    octet_of_toNat (b := a) (by omega), octet_of_toNat (b := b) (by omega),
    octet_of_toNat (b := c) (by omega), octet_of_toNat (b := d) (by omega)]

/-- A character that is read stands there in its form. -/
theorem encodeChar_of_nextChunk {first : UInt8} {rest : Octets} {c : Char} {count : Nat}
    (next : nextChunk first rest = (.scalar c, count)) :
    encodeChar c = first :: rest.take count := by
  revert next
  fun_cases nextChunk first rest
  case case1 small =>
    rintro ⟨⟩
    exact encodeChar_one (UInt8.lt_iff_toNat_lt.1 small)
  case case2 range b more second =>
    rintro ⟨⟩
    exact encodeChar_two (between_iff.1 range).1 (between_iff.1 range).2 second
  case case5 range b second c more third =>
    rintro ⟨⟩
    exact encodeChar_three (between_iff.1 range).1 (between_iff.1 range).2 second third
  case case10 range b second c third d more fourth =>
    rintro ⟨⟩
    exact encodeChar_four (between_iff.1 range).1 (between_iff.1 range).2 second third fourth
  all_goals
    intro next
    cases next

/-! ## Whole texts -/

theorem chunks_flatMap_encodeChar (cs : List Char) :
    chunks (cs.flatMap encodeChar) = cs.map Chunk.scalar := by
  induction cs with
  | nil =>
    unfold chunks
    rfl
  | cons c cs ih =>
    obtain ⟨first, more, form, next⟩ := exists_encodeChar_eq c (cs.flatMap encodeChar)
    rw [List.flatMap_cons, form, List.cons_append, chunks, next]
    dsimp only
    rw [List.drop_left, ih]
    rfl

theorem flatMap_encodeChar_of_chunks {o : Octets} {cs : List Char}
    (read : (chunks o).mapM Chunk.scalar? = some cs) : cs.flatMap encodeChar = o := by
  induction o using chunks.induct generalizing cs with
  | case1 =>
    rw [chunks] at read
    obtain rfl : [] = cs := Option.some.inj read
    rfl
  | case2 first rest step =>
    rename_i ih
    rw [chunks, List.mapM_cons] at read
    obtain ⟨c, scalar, cs', read', rfl⟩ : ∃ c, (nextChunk first rest).1.scalar? = some c ∧
        ∃ cs', (chunks (rest.drop (nextChunk first rest).2)).mapM Chunk.scalar? = some cs' ∧
          c :: cs' = cs := by
      simpa [Option.bind_eq_some_iff] using read
    have next : nextChunk first rest = (.scalar c, (nextChunk first rest).2) := by
      cases chunk : (nextChunk first rest).1 with
      | malformed octets =>
        rw [chunk] at scalar
        cases scalar
      | scalar d =>
        rw [chunk] at scalar
        obtain rfl : d = c := Option.some.inj scalar
        exact Prod.ext chunk rfl
    rw [List.flatMap_cons, encodeChar_of_nextChunk next, ih read', List.cons_append,
      List.take_append_drop]

/-- Reading undoes writing. -/
theorem text?_ofText (s : String) : text? (ofText s) = some s := by
  have scalars (cs : List Char) : (cs.map Chunk.scalar).mapM Chunk.scalar? = some cs := by
    induction cs with
    | nil => rfl
    | cons c cs ih =>
      rw [List.map_cons, List.mapM_cons, ih]
      rfl
  rw [text?, ofText, chunks_flatMap_encodeChar, scalars, Option.map_some, String.ofList_toList]

/-- A text is shown as it is. -/
theorem lossy_ofText (s : String) : lossy (ofText s) = s := by
  have scalars : (fun c => ((Chunk.scalar c).scalar?.getD replacement)) = id := rfl
  rw [lossy, ofText, chunks_flatMap_encodeChar, List.map_map, Function.comp_def, scalars,
    List.map_id, String.ofList_toList]

/-- Writing undoes reading. -/
theorem ofText_of_text? {o : Octets} {s : String} (read : text? o = some s) : ofText s = o := by
  obtain ⟨cs, chunked, rfl⟩ := Option.map_eq_some_iff.1 read
  rw [ofText, String.toList_ofList, flatMap_encodeChar_of_chunks chunked]

end Octets

end EmbeddedPython
