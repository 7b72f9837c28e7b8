import EmbeddedPython.Host
import EmbeddedPython.Proofs.Text.Numerals
import Mathlib.Data.List.Basic
import Mathlib.Data.List.TakeWhile
import Mathlib.Data.Nat.Digits.Defs

/-!
# Explicit versions

An explicit version is a text with blanks around two numbers, a dot between the numbers
and anything behind a second dot (`Version.IsExplicit`).  The parser reads these texts
and no others, and it reads back what `Version.text` writes
(`Version.parse_inverts_text`).
-/

namespace EmbeddedPython

/-! ## Blanks around a text -/

namespace Text

/-- `core` is what is between the blanks in front of a text and those behind it. -/
def IsTrimmed (cs core : List Char) : Prop :=
  ∃ front back, cs = front ++ core ++ back ∧
    (∀ c ∈ front, isBlank c = true) ∧ (∀ c ∈ back, isBlank c = true) ∧
    (∀ c ∈ core.head?, isBlank c = false) ∧ ∀ c ∈ core.getLast?, isBlank c = false

theorem dropBlanks_append {front : List Char} (blank : ∀ c ∈ front, isBlank c = true)
    {core : List Char} (first : ∀ c ∈ core.head?, isBlank c = false) :
    dropBlanks (front ++ core) = core := by
  rw [dropBlanks, List.dropWhile_append_of_pos blank]
  cases core with
  | nil => rfl
  | cons c core =>
    have visible : isBlank c = false := first c rfl
    exact List.dropWhile_cons_of_neg (by rw [visible]; decide)

/-- The blanks in front of a text, and the rest of it. -/
theorem exists_front (cs : List Char) :
    ∃ front, cs = front ++ dropBlanks cs ∧ (∀ c ∈ front, isBlank c = true) ∧
      ∀ c ∈ (dropBlanks cs).head?, isBlank c = false := by
  refine ⟨cs.takeWhile isBlank, List.takeWhile_append_dropWhile.symm,
    fun c mem => List.mem_takeWhile_imp mem, fun c mem => ?_⟩
  have visible := List.head?_dropWhile_not isBlank cs
  have first : (cs.dropWhile isBlank).head? = some c := mem
  rw [first] at visible
  exact visible

/-- A text without the blanks at its end, and these blanks. -/
theorem exists_back (cs : List Char) :
    ∃ back, cs = dropBlanksEnd cs ++ back ∧ (∀ c ∈ back, isBlank c = true) ∧
      ∀ c ∈ (dropBlanksEnd cs).getLast?, isBlank c = false := by
  obtain ⟨back, cut, blank, visible⟩ := exists_front cs.reverse
  refine ⟨back.reverse, ?_, fun c mem => blank c (List.mem_reverse.mp mem), fun c mem => ?_⟩
  · rw [dropBlanksEnd, ← List.reverse_append, ← cut, List.reverse_reverse]
  · rw [dropBlanksEnd, List.getLast?_reverse] at mem
    exact visible c mem

theorem isTrimmed_trimChars (cs : List Char) : IsTrimmed cs (trimChars cs) := by
  obtain ⟨front, cut, blankFront, visibleFirst⟩ := exists_front cs
  obtain ⟨back, cut', blankBack, visibleLast⟩ := exists_back (dropBlanks cs)
  refine ⟨front, back, ?_, blankFront, blankBack, ?_, visibleLast⟩
  · rw [List.append_assoc, trimChars, ← cut']
    exact cut
  · intro c mem
    refine visibleFirst c ?_
    rw [cut', List.head?_append, ← trimChars, Option.mem_def.mp mem]
    rfl

/-- There is one such stretch. -/
theorem trimChars_eq_iff {cs core : List Char} : trimChars cs = core ↔ IsTrimmed cs core := by
  constructor
  · rintro rfl
    exact isTrimmed_trimChars cs
  · rintro ⟨front, back, rfl, blankFront, blankBack, visibleFirst, visibleLast⟩
    by_cases none : core = []
    · -- Then all is blank, and there is no first visible character to stop at.
      subst none
      have blank : ∀ c ∈ front ++ [] ++ back, isBlank c = true := by
        intro c mem
        rw [List.append_nil] at mem
        rcases List.mem_append.mp mem with mem | mem
        · exact blankFront c mem
        · exact blankBack c mem
      have nothing : dropBlanks (front ++ [] ++ back) = [] := List.dropWhile_eq_nil_iff.mpr blank
      rw [trimChars, nothing]
      rfl
    · have first : dropBlanks (front ++ core ++ back) = core ++ back := by
        rw [List.append_assoc]
        refine dropBlanks_append blankFront fun c mem => visibleFirst c ?_
        rwa [List.head?_append_of_ne_nil _ none] at mem
      have last : dropBlanks (core ++ back).reverse = core.reverse := by
        rw [List.reverse_append]
        refine dropBlanks_append (fun c mem => blankBack c (List.mem_reverse.mp mem))
          fun c mem => ?_
        rw [List.head?_reverse] at mem
        exact visibleLast c mem
      rw [trimChars, first, dropBlanksEnd, last, List.reverse_reverse]

/-- More blanks around a text make no difference. -/
theorem trimChars_of_blank {front back : List Char} (blankFront : ∀ c ∈ front, isBlank c = true)
    (blankBack : ∀ c ∈ back, isBlank c = true) (cs : List Char) :
    trimChars (front ++ cs ++ back) = trimChars cs := by
  obtain ⟨before, behind, cut, blankBefore, blankBehind, visible⟩ := isTrimmed_trimChars cs
  refine trimChars_eq_iff.mpr ⟨front ++ before, behind ++ back, ?_, ?_, ?_, visible⟩
  · conv_lhs => rw [cut]
    simp only [List.append_assoc]
  · intro c mem
    rcases List.mem_append.mp mem with mem | mem
    · exact blankFront c mem
    · exact blankBefore c mem
  · intro c mem
    rcases List.mem_append.mp mem with mem | mem
    · exact blankBehind c mem
    · exact blankBack c mem

end Text

/-! ## Numbers with an optional plus sign -/

namespace Numeral

theorem valueOf_eq_ofDigits (digits : List Char) :
    valueOf digits = Nat.ofDigits 10 (digits.reverse.map digitValue) := by
  induction digits using List.reverseRecOn with
  | nil => rfl
  | append_singleton digits c ih =>
    rw [valueOf_append, ih, List.reverse_concat, List.map_cons, Nat.ofDigits_cons]
    omega

/-- A text of a number: ASCII digits, and an optional plus sign in front.  Zeros in front
of the other digits make no difference. -/
def Writes (cs : List Char) (n : Nat) : Prop :=
  ∃ digits, (cs = digits ∨ cs = '+' :: digits) ∧ digits ≠ [] ∧
    (∀ c ∈ digits, isDigit c = true) ∧ Nat.ofDigits 10 (digits.reverse.map digitValue) = n

/-- A sign is dropped once. -/
theorem dropPlus_cases (cs : List Char) : cs = dropPlus cs ∨ cs = '+' :: dropPlus cs := by
  unfold dropPlus
  split
  · exact .inr rfl
  · exact .inl rfl

theorem value?_eq_some_iff {cs : List Char} {n : Nat} :
    value? cs = some n ↔ cs ≠ [] ∧ (∀ c ∈ cs, isDigit c = true) ∧ valueOf cs = n := by
  unfold value?
  by_cases none : cs.isEmpty = true
  · rw [if_pos none]
    exact iff_of_false nofun fun h => h.1 (List.isEmpty_iff.mp none)
  · by_cases digits : cs.all isDigit = true
    · have nonempty : cs ≠ [] := fun h => none (List.isEmpty_iff.mpr h)
      rw [if_neg none, if_pos digits, Option.some.injEq]
      exact ⟨fun h => ⟨nonempty, List.all_eq_true.mp digits, h⟩, fun h => h.2.2⟩
    · rw [if_neg none, if_neg digits]
      exact iff_of_false nofun fun h => digits (List.all_eq_true.mpr h.2.1)

theorem word32?_eq_some_iff {cs : List Char} {n : UInt32} :
    word32? cs = some n ↔ Writes cs n.toNat := by
  unfold word32? bounded?
  constructor
  · intro read
    obtain ⟨m, found, rfl⟩ := Option.map_eq_some_iff.mp read
    split at found
    · next value read =>
      obtain ⟨nonempty, digits, rfl⟩ := value?_eq_some_iff.mp read
      split at found
      · next small =>
        obtain rfl := Option.some.inj found
        refine ⟨dropPlus cs, dropPlus_cases cs, nonempty, digits, ?_⟩
        rw [← valueOf_eq_ofDigits, UInt32.toNat_ofNat_of_lt' small]
      · cases found
    · cases found
  · rintro ⟨digits, signed, nonempty, all, value⟩
    have plain : dropPlus cs = digits := by
      rcases signed with rfl | rfl
      · exact dropPlus_of_digits all
      · rfl
    rw [← valueOf_eq_ofDigits] at value
    have read : value? digits = some n.toNat := value?_eq_some_iff.mpr ⟨nonempty, all, value⟩
    rw [plain, read]
    dsimp only
    rw [if_pos n.toNat_lt, Option.map_some, UInt32.ofNat_toNat]

theorem writes_decimal (n : Nat) : Writes (decimal n) n := by
  refine ⟨decimal n, .inl rfl, decimal_ne_nil n, isDigit_of_mem_decimal n, ?_⟩
  rw [← valueOf_eq_ofDigits, valueOf_decimal]

theorem Writes.mem {cs : List Char} {n : Nat} (h : Writes cs n) :
    ∀ c ∈ cs, c = '+' ∨ isDigit c = true := by
  obtain ⟨digits, rfl | rfl, -, all, -⟩ := h
  · exact fun c mem => .inr (all c mem)
  · intro c mem
    rcases List.mem_cons.mp mem with rfl | mem
    · exact .inl rfl
    · exact .inr (all c mem)

theorem Writes.dotless {cs : List Char} {n : Nat} (h : Writes cs n) : '.' ∉ cs := by
  intro dot
  rcases h.mem '.' dot with plus | digit
  · exact absurd plus (by decide)
  · exact absurd digit (by decide)

theorem Writes.visible {cs : List Char} {n : Nat} (h : Writes cs n) :
    ∀ c ∈ cs, Text.isBlank c = false := by
  intro c mem
  rcases h.mem c mem with rfl | isDigit
  · decide
  · have none : ∀ n < 10, Text.isBlank (digit n) = false := by decide
    rw [← digit_digitValue isDigit]
    exact none _ (digitValue_lt isDigit)

end Numeral

namespace Version

open Numeral Text

/-! ## Stretches between dots -/

theorem splitDots_ne_nil (cs : List Char) : splitDots cs ≠ [] := by
  cases cs with
  | nil => exact List.cons_ne_nil _ _
  | cons c cs =>
    rw [splitDots]
    split
    · exact List.cons_ne_nil _ _
    · split <;> exact List.cons_ne_nil _ _

theorem splitDots_dot (cs : List Char) : splitDots ('.' :: cs) = [] :: splitDots cs := by
  rw [splitDots]
  split
  · next none => exact absurd none (splitDots_ne_nil cs)
  · next first more same => rw [if_pos rfl, same]

theorem splitDots_cons {c : Char} (h : c ≠ '.') {cs first : List Char} {more : List (List Char)}
    (split : splitDots cs = first :: more) : splitDots (c :: cs) = (c :: first) :: more := by
  rw [splitDots, split]
  exact if_neg h

theorem splitDots_of_dotless {cs : List Char} (h : '.' ∉ cs) : splitDots cs = [cs] := by
  induction cs with
  | nil => rfl
  | cons c cs ih =>
    rw [List.mem_cons, not_or] at h
    exact splitDots_cons (Ne.symm h.1) (ih h.2)

theorem splitDots_append {front : List Char} (h : '.' ∉ front) (rest : List Char) :
    splitDots (front ++ '.' :: rest) = front :: splitDots rest := by
  induction front with
  | nil => exact splitDots_dot rest
  | cons c front ih =>
    rw [List.mem_cons, not_or] at h
    exact splitDots_cons (Ne.symm h.1) (ih h.2)

/-- Two stretches without dots are the first two of a text that has nothing, or a second
dot, behind them. -/
theorem exists_splitDots {a b rest : List Char} (front : '.' ∉ a) (next : '.' ∉ b)
    (ends : rest = [] ∨ ∃ more, rest = '.' :: more) :
    ∃ more, splitDots (a ++ '.' :: b ++ rest) = a :: b :: more := by
  rw [List.append_assoc, List.cons_append, splitDots_append front]
  rcases ends with rfl | ⟨more, rfl⟩
  · rw [List.append_nil, splitDots_of_dotless next]
    exact ⟨[], rfl⟩
  · rw [splitDots_append next]
    exact ⟨splitDots more, rfl⟩

/-- Every text with a dot is made so. -/
theorem exists_stretches {cs : List Char} (dot : '.' ∈ cs) :
    ∃ a b rest, cs = a ++ '.' :: b ++ rest ∧ '.' ∉ a ∧ '.' ∉ b ∧
      (rest = [] ∨ ∃ more, rest = '.' :: more) := by
  obtain ⟨a, behind, rfl, front⟩ := List.eq_append_cons_of_mem dot
  by_cases second : '.' ∈ behind
  · obtain ⟨b, more, rfl, next⟩ := List.eq_append_cons_of_mem second
    exact ⟨a, b, '.' :: more, by simp, front, next, .inr ⟨more, rfl⟩⟩
  · exact ⟨a, behind, [], by simp, front, second, .inl rfl⟩

/-! ## The grammar -/

/-- An explicit version: between blanks, two numbers of 32 bits with a dot between them,
and anything behind a second dot. -/
inductive IsExplicit (s : String) : Version → Prop
  | mk {a b rest : List Char} {major minor : UInt32}
      (trimmed : IsTrimmed s.toList (a ++ '.' :: b ++ rest))
      (ends : rest = [] ∨ ∃ more, rest = '.' :: more)
      (first : Writes a major.toNat) (second : Writes b minor.toNat) :
      IsExplicit s ⟨major, some minor⟩

theorem parse_of_stretches {s : String} {a b : List Char} {more : List (List Char)}
    (cut : splitDots (trimChars s.toList) = a :: b :: more) :
    parse s = match word32? a, word32? b with
      | some major, some minor => .ok ⟨major, some minor⟩
      | _, _ => .error (.invalid s) := by
  cases first : word32? a <;> cases second : word32? b <;>
    simp only [parse, cut, first, second]

theorem parse_of_dotless {s : String} (h : '.' ∉ trimChars s.toList) :
    parse s = .error (.invalid s) := by
  rw [parse, splitDots_of_dotless h]

/-- The parser reads the explicit versions, and what it reads is the version. -/
theorem parse_eq_ok_iff {s : String} {v : Version} : parse s = .ok v ↔ IsExplicit s v := by
  constructor
  · intro read
    by_cases dot : '.' ∈ trimChars s.toList
    · obtain ⟨a, b, rest, core, front, next, ends⟩ := exists_stretches dot
      obtain ⟨more, cut⟩ := exists_splitDots front next ends
      rw [← core] at cut
      rw [parse_of_stretches cut] at read
      split at read
      · next major minor first second =>
        obtain rfl := Except.ok.inj read
        exact .mk (trimChars_eq_iff.mp core) ends (word32?_eq_some_iff.mp first)
          (word32?_eq_some_iff.mp second)
      · cases read
    · rw [parse_of_dotless dot] at read
      cases read
  · rintro ⟨trimmed, ends, first, second⟩
    obtain ⟨more, cut⟩ := exists_splitDots first.dotless second.dotless ends
    rw [← trimChars_eq_iff.mpr trimmed] at cut
    rw [parse_of_stretches cut, word32?_eq_some_iff.mpr first, word32?_eq_some_iff.mpr second]

/-- A text that is no explicit version is told back. -/
theorem parse_eq_error_iff {s : String} {fault : Fault} :
    parse s = .error fault ↔ fault = .invalid s ∧ ¬∃ v, IsExplicit s v := by
  have told : ∀ {fault}, parse s = .error fault → fault = .invalid s := by
    intro fault failed
    unfold parse at failed
    split at failed
    · split at failed
      · cases failed
      · exact (Except.error.inj failed).symm
    · exact (Except.error.inj failed).symm
  constructor
  · intro failed
    refine ⟨told failed, fun ⟨v, explicit⟩ => ?_⟩
    rw [parse_eq_ok_iff.mpr explicit] at failed
    cases failed
  · rintro ⟨rfl, none⟩
    cases read : parse s with
    | error fault => rw [told read]
    | ok v => exact absurd ⟨v, parse_eq_ok_iff.mp read⟩ none

/-! ## Texts of versions -/

theorem toList_text (major minor : UInt32) :
    (text ⟨major, some minor⟩).toList = decimal major.toNat ++ '.' :: decimal minor.toNat := by
  simp [text, Numeral.text]

theorem toList_text_major (major : UInt32) :
    (text ⟨major, none⟩).toList = decimal major.toNat := by
  simp [text, Numeral.text]

/-- Of what follows a second dot, the blanks at the end are trimmed with the others. -/
theorem exists_isTrimmed_text (major minor : UInt32) {rest : List Char}
    (ends : rest = [] ∨ ∃ more, rest = '.' :: more) :
    ∃ rest', (rest' = [] ∨ ∃ more, rest' = '.' :: more) ∧
      IsTrimmed ((text ⟨major, some minor⟩).toList ++ rest)
        (decimal major.toNat ++ '.' :: decimal minor.toNat ++ rest') := by
  have visibleFirst : ∀ rest', ∀ c ∈ (decimal major.toNat ++ '.' :: decimal minor.toNat ++
      rest').head?, isBlank c = false := by
    intro rest' c mem
    rw [List.append_assoc, List.head?_append_of_ne_nil _ (decimal_ne_nil _)] at mem
    exact (writes_decimal _).visible c (List.mem_of_mem_head? mem)
  rw [toList_text]
  rcases ends with rfl | ⟨more, rfl⟩
  · refine ⟨[], .inl rfl, [], [], by simp, nofun, nofun, visibleFirst [], fun c mem => ?_⟩
    have last : c ∈ (decimal minor.toNat).getLast? := by
      rw [List.append_nil, List.getLast?_append_of_ne_nil _ (List.cons_ne_nil _ _),
        List.getLast?_cons_of_ne_nil (decimal_ne_nil _)] at mem
      exact mem
    exact (writes_decimal _).visible c (List.mem_of_mem_getLast? last)
  · obtain ⟨back, cut, blank, visible⟩ := exists_back more
    refine ⟨'.' :: dropBlanksEnd more, .inr ⟨_, rfl⟩, [], back, ?_, nofun, blank,
      visibleFirst _, fun c mem => ?_⟩
    · conv_lhs => rw [cut]
      simp
    · rw [List.getLast?_append_of_ne_nil _ (List.cons_ne_nil _ _)] at mem
      by_cases none : dropBlanksEnd more = []
      · rw [none] at mem
        obtain rfl := Option.some.inj mem
        decide
      · rw [List.getLast?_cons_of_ne_nil none] at mem
        exact visible c mem

/-- The text of a version is read back, with blanks around it or anything behind a second
dot. -/
theorem parse_text (major minor : UInt32) {s : String} (front rest back : List Char)
    (blankFront : ∀ c ∈ front, isBlank c = true) (blankBack : ∀ c ∈ back, isBlank c = true)
    (ends : rest = [] ∨ ∃ more, rest = '.' :: more)
    (h : s.toList = front ++ ((text ⟨major, some minor⟩).toList ++ rest) ++ back) :
    parse s = .ok ⟨major, some minor⟩ := by
  obtain ⟨rest', ends', trimmed⟩ := exists_isTrimmed_text major minor ends
  refine parse_eq_ok_iff.mpr (.mk (trimChars_eq_iff.mp ?_) ends' (writes_decimal _)
    (writes_decimal _))
  rw [h, trimChars_of_blank blankFront blankBack]
  exact trimChars_eq_iff.mpr trimmed

/-- There is no dot in the text of a major number alone. -/
theorem parse_text_major (major : UInt32) :
    parse (text ⟨major, none⟩) = .error (.invalid (text ⟨major, none⟩)) := by
  refine parse_of_dotless fun dot => ?_
  obtain ⟨front, back, cut, -⟩ := isTrimmed_trimChars (text ⟨major, none⟩).toList
  have inside : '.' ∈ decimal major.toNat := by
    rw [← toList_text_major, cut]
    exact List.mem_append_left _ (List.mem_append_right _ dot)
  exact (writes_decimal major.toNat).dotless inside

/-- What is read has a minor number, and its text is read again. -/
theorem parse_text_of_parse {s : String} {v : Version} (read : parse s = .ok v) :
    parse v.text = .ok v := by
  obtain ⟨-, -, -, -⟩ := parse_eq_ok_iff.mp read
  exact parse_text _ _ [] [] [] nofun nofun (.inl rfl) (by simp)

/-! ## The parser and the text of a version -/

/-- What is promised of explicit versions. -/
structure InvertsText : Prop where
  /-- A text is read exactly if it is an explicit version, and as that version. -/
  reads : ∀ (s : String) (v : Version), parse s = .ok v ↔ IsExplicit s v
  /-- Any other text is told of as an error of the configuration. -/
  rejects : ∀ s, (¬∃ v, IsExplicit s v) → parse s = .error (.invalid s) ∧
    ∀ config : Config, config.version = some s →
      Host.targetOf config = .error (.configuration (.version (.invalid s)))
  /-- The text of a version is read back. -/
  inverts : ∀ major minor : UInt32,
    parse (text ⟨major, some minor⟩) = .ok ⟨major, some minor⟩
  /-- Blanks around it, and anything behind a second dot, make no difference. -/
  ignores : ∀ (major minor : UInt32) (front back rest : String),
    isAllBlank front = true → isAllBlank back = true →
    parse (front ++ text ⟨major, some minor⟩ ++ back) = .ok ⟨major, some minor⟩ ∧
    parse (front ++ text ⟨major, some minor⟩ ++ "." ++ rest ++ back) = .ok ⟨major, some minor⟩
  /-- A major number alone is not read back. -/
  incomplete : ∀ major : UInt32,
    parse (text ⟨major, none⟩) = .error (.invalid (text ⟨major, none⟩))
  /-- An explicit version and the text of what it is read as name the same
  installation, at every root. -/
  same_target : ∀ (s : String) (v : Version), parse s = .ok v → ∀ root,
    Installation.resolve root (some s) = .ok ⟨root, v⟩ ∧
      Installation.resolve root (some v.text) = .ok ⟨root, v⟩

theorem parse_inverts_text : InvertsText where
  reads _ _ := parse_eq_ok_iff
  rejects s none := by
    have failed : parse s = .error (.invalid s) := parse_eq_error_iff.mpr ⟨rfl, none⟩
    refine ⟨failed, fun config explicit => ?_⟩
    rw [Host.targetOf, explicit]
    unfold Installation.resolve
    dsimp only
    rw [failed]
    rfl
  inverts major minor := parse_text major minor [] [] [] nofun nofun (.inl rfl) (by simp)
  ignores major minor front back rest blankFront blankBack := by
    have front' := List.all_eq_true.mp blankFront
    have back' := List.all_eq_true.mp blankBack
    constructor
    · exact parse_text major minor _ [] _ front' back' (.inl rfl) (by simp)
    · exact parse_text major minor _ ('.' :: rest.toList) _ front' back' (.inr ⟨_, rfl⟩) (by simp)
  incomplete := parse_text_major
  same_target s v read root := by
    unfold Installation.resolve
    dsimp only
    rw [read, parse_text_of_parse read]
    exact ⟨rfl, rfl⟩

/-- Signs and zeros in front make no difference. -/
example : parse "\t+03.0012.x y \n" = .ok ⟨3, some 12⟩ := by decide

end Version

end EmbeddedPython
