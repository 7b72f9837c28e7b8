import EmbeddedPython.Proofs.Text.Octets

/-!
# Places in the octets of a text

A text may be cut at an offset of its octets where no character is cut in two
(`Octets.isBoundary`).  The octets of whole characters end at such an offset
(`Octets.isBoundary_length`).

`Octets.lastOffset?` looks for the last place of a pattern.  A pattern of ASCII
characters stands only where it stands as characters, since no octet of another
character is one of its own (`Octets.lastOffset?_encodeChar_append` and
`Octets.isPrefixOf_flatMap`), and a copy with the ASCII letters in lower case has
every character at the offset where it was (`Octets.map_lowerOctet_flatMap`).
-/

namespace EmbeddedPython.Octets

/-- What holds of every element of a list can be computed along the list, however many
elements there are of the type. -/
theorem forall_mem_of_all {α : Type} {p : α → Prop} [DecidablePred p] {l : List α}
    (h : (l.all fun a => decide (p a)) = true) : ∀ a ∈ l, p a :=
  fun a mem => of_decide_eq_true (List.all_eq_true.1 h a mem)

/-- An offset at which no character is cut in two. -/
def isBoundary (octets : Octets) (offset : Nat) : Bool :=
  match octets[offset]? with
  | some b => !isContinuation b
  | none => offset == octets.length

/-- The offset of the last place where a pattern stands. -/
def lastOffset? (pattern : Octets) : Octets → Option Nat
  | [] => none
  | b :: rest =>
    match lastOffset? pattern rest with
    | some offset => some (offset + 1)
    | none => if pattern.isPrefixOf (b :: rest) then some 0 else none

/-- An ASCII letter in lower case, and any other octet as it is. -/
def lowerOctet (b : UInt8) : UInt8 :=
  if 0x41 ≤ b && b ≤ 0x5A then b + 0x20 else b

/-! ## Single characters -/

theorem encodeChar_of_ascii {c : Char} (ascii : c.toNat < 0x80) :
    encodeChar c = [c.toNat.toUInt8] := by
  unfold encodeChar
  exact if_pos ascii

/-- The form of a character that is not ASCII starts with an octet that starts a form,
and only continuations follow. -/
theorem encodeChar_of_not_ascii {c : Char} (other : 0x80 ≤ c.toNat) :
    ∃ first more, encodeChar c = first :: more ∧ 0xC0 ≤ first.toNat ∧
      ∀ b ∈ more, isContinuation b = true := by
  have below : c.toNat < 0x110000 := by
    have valid : c.toNat.isValidChar := c.valid
    unfold Nat.isValidChar at valid
    omega
  have continues {n : Nat} (h : n < 0x40) : isContinuation (0x80 + n).toUInt8 = true := by
    rw [isContinuation_iff, toNat_octet (by omega)]
    omega
  unfold encodeChar
  dsimp only
  rw [if_neg (by omega)]
  split
  · refine ⟨_, _, rfl, ?_, ?_⟩
    · rw [toNat_octet (by omega)]
      omega
    · intro b mem
      simp only [List.mem_cons, List.not_mem_nil, or_false] at mem
      rw [mem]
      exact continues (by omega)
  · split
    · refine ⟨_, _, rfl, ?_, ?_⟩
      · rw [toNat_octet (by omega)]
        omega
      · intro b mem
        simp only [List.mem_cons, List.not_mem_nil, or_false] at mem
        rcases mem with rfl | rfl <;> exact continues (by omega)
    · refine ⟨_, _, rfl, ?_, ?_⟩
      · rw [toNat_octet (by omega)]
        omega
      · intro b mem
        simp only [List.mem_cons, List.not_mem_nil, or_false] at mem
        rcases mem with rfl | rfl | rfl <;> exact continues (by omega)

/-- The first octet of a form continues nothing, and the others are not ASCII. -/
theorem encodeChar_cases (c : Char) : ∃ first more, encodeChar c = first :: more ∧
    isContinuation first = false ∧ ∀ b ∈ more, 0x80 ≤ b.toNat := by
  by_cases ascii : c.toNat < 0x80
  · refine ⟨_, _, encodeChar_of_ascii ascii, ?_, by simp⟩
    rw [← Bool.not_eq_true, isContinuation_iff, toNat_octet (by omega)]
    omega
  · obtain ⟨first, more, form, large, rest⟩ := encodeChar_of_not_ascii (Nat.le_of_not_lt ascii)
    refine ⟨first, more, form, ?_, fun b mem => (isContinuation_iff.1 (rest b mem)).1⟩
    rw [← Bool.not_eq_true, isContinuation_iff]
    omega

/-! ## Boundaries -/

theorem isBoundary_length (cs ds : List Char) :
    isBoundary ((cs ++ ds).flatMap encodeChar) (cs.flatMap encodeChar).length = true := by
  unfold isBoundary
  rw [List.flatMap_append]
  cases ds with
  | nil => simp
  | cons d ds =>
    obtain ⟨first, more, form, starts, -⟩ := encodeChar_cases d
    rw [List.flatMap_cons, form, List.cons_append, List.getElem?_append_right (Nat.le_refl _),
      Nat.sub_self, List.getElem?_cons_zero]
    dsimp only
    rw [starts]
    rfl

/-! ## Patterns of ASCII characters -/

/-- A pattern stands nowhere at octets that it does not start with. -/
theorem lastOffset?_append {pattern front : Octets}
    (other : ∀ b ∈ front, pattern.head? ≠ some b) (nonempty : pattern ≠ []) (rest : Octets) :
    lastOffset? pattern (front ++ rest) =
      (lastOffset? pattern rest).map (front.length + ·) := by
  induction front with
  | nil => simp
  | cons b front ih =>
    have absent : pattern.isPrefixOf (b :: (front ++ rest)) = false := by
      cases pattern with
      | nil => exact absurd rfl nonempty
      | cons a pattern =>
        have ne : a ≠ b := by simpa using other b List.mem_cons_self
        simp [List.isPrefixOf, ne]
    rw [List.cons_append, lastOffset?, ih fun c mem => other c (List.mem_cons_of_mem b mem)]
    cases lastOffset? pattern rest with
    | none => simp [absent]
    | some offset =>
      simp only [Option.map_some, List.length_cons, Option.some.injEq]
      omega

theorem isPrefixOf_flatMap {text : List Char} (ascii : ∀ c ∈ text, c.toNat < 0x80)
    (cs : List Char) :
    (text.flatMap encodeChar).isPrefixOf (cs.flatMap encodeChar) = text.isPrefixOf cs := by
  induction text generalizing cs with
  | nil => simp
  | cons a text ih =>
    have small : a.toNat < 0x80 := ascii a List.mem_cons_self
    have rest := ih fun c mem => ascii c (List.mem_cons_of_mem a mem)
    rw [List.flatMap_cons, encodeChar_of_ascii small, List.singleton_append]
    cases cs with
    | nil => simp
    | cons c cs =>
      rw [List.flatMap_cons]
      by_cases same : c.toNat < 0x80
      · have inj : (a.toNat.toUInt8 == c.toNat.toUInt8) = (a == c) := by
          rw [Bool.eq_iff_iff, beq_iff_eq, beq_iff_eq, ← UInt8.toNat_inj,
            toNat_octet (by omega), toNat_octet (by omega)]
          exact Char.toNat_inj
        rw [encodeChar_of_ascii same, List.singleton_append, List.isPrefixOf, List.isPrefixOf,
          rest cs, inj]
      · obtain ⟨first, more, form, large, -⟩ := encodeChar_of_not_ascii (Nat.le_of_not_lt same)
        have ne : (a.toNat.toUInt8 == first) = false := by
          rw [beq_eq_false_iff_ne, ne_eq, ← UInt8.toNat_inj, toNat_octet (by omega)]
          omega
        have ne' : (a == c) = false := by
          rw [beq_eq_false_iff_ne]
          rintro rfl
          exact same small
        rw [form, List.cons_append, List.isPrefixOf, List.isPrefixOf, ne, ne']
        rfl

/-- A pattern of ASCII characters stands behind the first character, or else where that
character is. -/
theorem lastOffset?_encodeChar_append {pattern : Octets} (nonempty : pattern ≠ [])
    (ascii : ∀ b ∈ pattern, b.toNat < 0x80) (c : Char) (rest : Octets) :
    lastOffset? pattern (encodeChar c ++ rest) =
      match lastOffset? pattern rest with
      | some offset => some ((encodeChar c).length + offset)
      | none => if pattern.isPrefixOf (encodeChar c ++ rest) then some 0 else none := by
  obtain ⟨first, more, form, -, large⟩ := encodeChar_cases c
  have other : ∀ b ∈ more, pattern.head? ≠ some b := by
    intro b mem starts
    have least := large b mem
    have most := ascii b (List.mem_of_mem_head? starts)
    omega
  rw [form, List.cons_append, lastOffset?, lastOffset?_append other nonempty]
  cases lastOffset? pattern rest with
  | none => rfl
  | some offset =>
    simp only [Option.map_some, List.length_cons, Option.some.injEq]
    omega

/-! ## Lower case -/

theorem lowerOctet_of_le {b : UInt8} (h : 0x80 ≤ b.toNat) : lowerOctet b = b := by
  unfold lowerOctet
  rw [if_neg (not_between (Nat.lt_of_lt_of_le (by decide) h))]

theorem encodeChar_toLower (c : Char) :
    encodeChar c.toLower = (encodeChar c).map lowerOctet := by
  by_cases ascii : c.toNat < 0x80
  · have each : ∀ n < 0x80, encodeChar (Char.ofNat n).toLower =
        (encodeChar (Char.ofNat n)).map lowerOctet := by decide
    have lowered := each c.toNat ascii
    rwa [Char.ofNat_toNat] at lowered
  · have same : c.toLower = c := by
      unfold Char.toLower
      rw [dif_neg]
      rintro ⟨-, most⟩
      have most : c.toNat ≤ 0x5A := most
      omega
    obtain ⟨first, more, form, large, rest⟩ := encodeChar_of_not_ascii (Nat.le_of_not_lt ascii)
    have unchanged : more.map lowerOctet = more := by
      rw [List.map_congr_left fun b mem => lowerOctet_of_le (isContinuation_iff.1 (rest b mem)).1]
      exact List.map_id' more
    rw [same, form, List.map_cons, lowerOctet_of_le (by omega), unchanged]

theorem map_lowerOctet_flatMap (cs : List Char) :
    (cs.flatMap encodeChar).map lowerOctet = (cs.map Char.toLower).flatMap encodeChar := by
  rw [List.map_flatMap, List.flatMap_map]
  simp only [encodeChar_toLower]

end EmbeddedPython.Octets
