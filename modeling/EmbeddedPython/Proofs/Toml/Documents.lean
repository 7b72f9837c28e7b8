import EmbeddedPython.Proofs.Toml.Strings
import EmbeddedPython.Toml.Reader

/-!
# Documents that are read as they were written

A document of lines holds the settings of its lines in their order
(`readDocument_settings`), if every name is new and needs no quotes and every
value is read up to the end of its line.  The texts, numbers and truth values of
a configuration are such values (`Setting.isRead_text`, `Setting.isRead_number`
and `Setting.isRead_switch`).
-/

namespace EmbeddedPython

namespace Toml

/-! ## Characters of a class -/

section Classes

variable {p : Char → Bool} {word : List Char}

theorem ne_of_class {c d : Char} (here : p c = true) (other : p d = false) : c ≠ d := by
  rintro rfl
  rw [here] at other
  cases other

/-- A row of characters of a class is none that holds another character. -/
theorem ne_of_mem_other (parts : ∀ c ∈ word, p c = true) {q : Char} (other : p q = false)
    {row : List Char} (there : q ∈ row) : word ≠ row := by
  rintro rfl
  exact ne_of_class (parts q there) other rfl

/-- A row of characters of a class does not begin with another character. -/
theorem append_ne_cons (nonempty : word ≠ []) (parts : ∀ c ∈ word, p c = true) {q : Char}
    (other : p q = false) (after rest : List Char) : word ++ after ≠ q :: rest := by
  cases word with
  | nil => exact absurd rfl nonempty
  | cons c word =>
    intro same
    exact ne_of_class (parts c List.mem_cons_self) other (List.cons.inj same).1

end Classes

/-! ## Reading words -/

/-- A date has a hyphen behind its year. -/
theorem afterDate?_eq_none {word : List Char} (hyphens : '-' ∉ word) : afterDate? word = none := by
  have behind : behind? '-' (word.drop 4) = none := by
    cases dropped : word.drop 4 with
    | nil => rfl
    | cons c rest =>
      have here : c ∈ word := List.mem_of_mem_drop (dropped ▸ List.mem_cons_self)
      have other : c ≠ '-' := by
        rintro rfl
        exact hyphens here
      exact if_neg other
  unfold afterDate?
  cases year : fixed? 4 word with
  | none => rfl
  | some read =>
    obtain ⟨n, rest⟩ := read
    unfold fixed? at year
    dsimp only at year
    split at year
    · obtain ⟨m, -, same⟩ := Option.map_eq_some_iff.1 year
      obtain ⟨-, rfl⟩ := Prod.mk.inj same
      simp only [Option.bind_eq_bind, Option.bind_some, behind, Option.bind_none]
    · cases year

/-- A word without hyphens ends at the first character that is no part of it. -/
theorem scalarWord_append {word after : List Char} (parts : ∀ c ∈ word, isWordPart c = true)
    (hyphens : '-' ∉ word) (ends : ∀ c, after.head? = some c → isWordPart c = false) :
    scalarWord (word ++ after) = word := by
  have front : (word ++ after).takeWhile isWordPart = word := by
    rw [List.takeWhile_append_of_pos parts]
    cases after with
    | nil => simp
    | cons c rest => simp [ends c rfl]
  unfold scalarWord
  rw [front]
  dsimp only
  rw [afterDate?_eq_none hyphens]

/-- A word is read as the value that it writes. -/
theorem readScalar_word {word after : List Char} {v : Value}
    (parts : ∀ c ∈ word, isWordPart c = true) (hyphens : '-' ∉ word) (nonempty : word ≠ [])
    (ends : ∀ c, after.head? = some c → isWordPart c = false) (value : ofWord word = some v) :
    readScalar (word ++ after) = .ok (v, after) := by
  have quoted {q : Char} (h : isWordPart q = false) := append_ne_cons nonempty parts h after
  unfold readScalar
  dsimp only
  split
  · next same => exact absurd same (quoted (by decide) _)
  · next same => exact absurd same (quoted (by decide) _)
  · next same => exact absurd same (quoted (by decide) _)
  · next same => exact absurd same (quoted (by decide) _)
  · rw [scalarWord_append parts hyphens ends, value, List.drop_left]

/-! ## Numbers -/

theorem exists_decimal_eq_cons {n : Nat} (positive : 0 < n) :
    ∃ c rest, Numeral.decimal n = c :: rest ∧ c ≠ '0' := by
  have digit : ∀ n < 10, 0 < n → Numeral.digit n ≠ '0' := by decide
  fun_induction Numeral.decimal n with
  | case1 n small => exact ⟨_, [], rfl, digit n small positive⟩
  | case2 n large ih =>
    obtain ⟨c, rest, front, nonzero⟩ := ih (by omega)
    exact ⟨c, rest ++ [_], by rw [front, List.cons_append], nonzero⟩

theorem digits?_eq_some {ds : List Char} (nonempty : ds ≠ [])
    (digits : ∀ c ∈ ds, Numeral.isDigit c = true) : digits? Numeral.isDigit ds = some ds := by
  fun_induction digits? Numeral.isDigit ds with
  | case1 => exact absurd rfl nonempty
  | case2 => rfl
  | case4 c rest here ih | case5 c rest here =>
    cases digits '_' (List.mem_cons_of_mem _ List.mem_cons_self)
  | case3 c other | case7 c rest more spaced other =>
    exact absurd (digits c List.mem_cons_self) other
  | case6 c rest more spaced here ih =>
    rw [ih more fun d there => digits d (List.mem_cons_of_mem c there), Option.map_some]

theorem splitSign_decimal (n : Nat) :
    splitSign (Numeral.decimal n) = (false, Numeral.decimal n) := by
  have digits := Numeral.isDigit_of_mem_decimal n
  unfold splitSign
  split
  · next same => exact absurd same (ne_of_mem_other digits (by decide) List.mem_cons_self)
  · next same => exact absurd same (ne_of_mem_other digits (by decide) List.mem_cons_self)
  · rfl

theorem wholeDigits?_decimal (n : Nat) :
    wholeDigits? (Numeral.decimal n) = some (Numeral.decimal n) := by
  unfold wholeDigits?
  split
  · next d rest same =>
    rcases Nat.eq_zero_or_pos n with rfl | positive
    · rw [Numeral.decimal] at same
      cases same
    · obtain ⟨c, more, front, nonzero⟩ := exists_decimal_eq_cons positive
      rw [front] at same
      exact absurd (List.cons.inj same).1 nonzero
  · exact digits?_eq_some (Numeral.decimal_ne_nil n) (Numeral.isDigit_of_mem_decimal n)

/-- The digits of a number are read as that number. -/
theorem integer?_decimal (n : Nat) : integer? (Numeral.decimal n) = some (n : Int) := by
  -- A letter behind a zero would be the sign of another base.
  have letter {c d : Char} {rest : List Char} (h : Numeral.isDigit d = false) :
      Numeral.decimal n ≠ c :: d :: rest :=
    ne_of_mem_other (Numeral.isDigit_of_mem_decimal n) h
      (List.mem_cons_of_mem c List.mem_cons_self)
  unfold integer?
  split
  · next same => exact absurd same (letter (by decide))
  · next same => exact absurd same (letter (by decide))
  · next same => exact absurd same (letter (by decide))
  · rw [splitSign_decimal]
    dsimp only
    rw [wholeDigits?_decimal, Option.map_some, if_neg (by decide), Numeral.valueOf_decimal]

theorem ofWord_decimal {n : Nat} (small : n < UInt64.size) :
    ofWord (Numeral.decimal n) = some (.integer n) := by
  have other {row : List Char} {c : Char} (there : c ∈ row) (h : Numeral.isDigit c = false) :
      Numeral.decimal n ≠ row :=
    ne_of_mem_other (Numeral.isDigit_of_mem_decimal n) h there
  have storable : isStorable n = true := by
    have below : n < Nat.pow 2 128 := Nat.lt_trans small (by decide)
    simp only [isStorable, Bool.and_eq_true, decide_eq_true_eq]
    omega
  have special : isSpecialFloat (Numeral.decimal n) = false := by
    unfold isSpecialFloat
    rw [splitSign_decimal]
    simp only [Bool.or_eq_false_iff, beq_eq_false_iff_ne]
    exact ⟨other (c := 'i') (by decide) (by decide), other (c := 'n') (by decide) (by decide)⟩
  unfold ofWord
  rw [if_neg (other (c := 't') (by decide) (by decide)),
    if_neg (other (c := 'f') (by decide) (by decide)), special, integer?_decimal]
  dsimp only
  rw [if_pos storable]
  rfl

theorem isWordPart_of_isDigit {c : Char} (h : Numeral.isDigit c = true) : isWordPart c = true := by
  simp only [Numeral.isDigit, Bool.and_eq_true, decide_eq_true_eq] at h
  have digit : c.isDigit = true := by
    simp only [Char.isDigit, Bool.and_eq_true, decide_eq_true_eq]
    exact h
  simp [isWordPart, Char.isAlphanum, digit]

theorem not_isWordPart_of_lineEnd {after : List Char} (lines : after.head? = some '\n') (c : Char)
    (first : after.head? = some c) : isWordPart c = false := by
  rw [lines] at first
  obtain rfl := Option.some.inj first
  decide

/-- A number is read as that number. -/
theorem readScalar_decimal {n : Nat} (small : n < UInt64.size) {after : List Char}
    (lines : after.head? = some '\n') :
    readScalar (Numeral.decimal n ++ after) = .ok (.integer n, after) := by
  have digits := Numeral.isDigit_of_mem_decimal n
  have hyphens : '-' ∉ Numeral.decimal n := by
    intro there
    cases digits '-' there
  exact readScalar_word (fun c there => isWordPart_of_isDigit (digits c there)) hyphens
    (Numeral.decimal_ne_nil n) (not_isWordPart_of_lineEnd lines) (ofWord_decimal small)

/-- A truth value is read as that truth value. -/
theorem readScalar_boolean (b : Bool) {after : List Char} (lines : after.head? = some '\n') :
    readScalar ((if b then "true".toList else "false".toList) ++ after) =
      .ok (.boolean b, after) := by
  have parts : ∀ word ∈ ["true", "false"], word.toList.all isWordPart = true := by decide
  have ends := not_isWordPart_of_lineEnd lines
  cases b
  · exact readScalar_word (List.all_eq_true.1 (parts "false" (by decide))) (by decide) (by decide)
      ends rfl
  · exact readScalar_word (List.all_eq_true.1 (parts "true" (by decide))) (by decide) (by decide)
      ends rfl

theorem Entries.get?_add_of_ne {es : Entries} {name other : String} (fresh : es.get? other = none)
    (h : other ≠ name) (v : Value) : (es.add name v).get? other = none := by
  have missing : (other == name) = false := beq_eq_false_iff_ne.2 h
  unfold get? at fresh ⊢
  rw [add, List.lookup_append, fresh, List.lookup_cons, missing]
  rfl

/-! ## Lines -/

/-- A name that is a key without quotes. -/
def IsBare (name : String) : Prop :=
  name.toList ≠ [] ∧ name.toList.all isBareKey = true

instance (name : String) : Decidable (IsBare name) :=
  inferInstanceAs (Decidable (_ ∧ _))

theorem IsBare.exists_eq_cons {name : String} (bare : IsBare name) :
    ∃ c rest, name.toList = c :: rest ∧ isBareKey c = true := by
  obtain ⟨c, rest, front⟩ := List.exists_cons_of_ne_nil bare.1
  exact ⟨c, rest, front, List.all_eq_true.1 bare.2 c (front ▸ List.mem_cons_self)⟩

theorem skip_of_bare {c : Char} (bare : isBareKey c = true) (rest : List Char) :
    skip (c :: rest) = .ok (c :: rest) := by
  have idle {d : Char} (h : isBareKey d = false) : c ≠ d := ne_of_class bare h
  have noGap : isGap c = false := by
    simp only [isGap, Bool.or_eq_false_iff, beq_eq_false_iff_ne]
    exact ⟨idle (by decide), idle (by decide)⟩
  have front : dropGap (c :: rest) = c :: rest := List.dropWhile_cons_of_neg (by simp [noGap])
  have noComment : readComment (c :: rest) = .ok (c :: rest) := by
    unfold readComment
    split
    · next same => exact absurd (List.cons.inj same).1 (idle (by decide))
    · rfl
  have noEnd : lineEnd? (c :: rest) = none := by
    unfold lineEnd?
    split
    · next same => exact absurd (List.cons.inj same).1 (idle (by decide))
    · next same => exact absurd (List.cons.inj same).1 (idle (by decide))
    · rfl
  rw [skip, List.length_cons, skipIdle, front, noComment]
  dsimp only [bind, Except.bind]
  rw [noEnd]
  rfl

theorem readKey_of_bare {name : String} (bare : IsBare name) (rest : List Char) :
    readKey (name.toList ++ ' ' :: '=' :: rest) = .ok ([], name, '=' :: rest) := by
  obtain ⟨nonempty, bare⟩ := bare
  rw [List.all_eq_true] at bare
  have quoted {q : Char} (h : isBareKey q = false) :=
    append_ne_cons nonempty bare h (' ' :: '=' :: rest)
  have front : (name.toList ++ ' ' :: '=' :: rest).takeWhile isBareKey = name.toList := by
    rw [List.takeWhile_append_of_pos bare]
    simp [isBareKey]
  have part : readKeyPart (name.toList ++ ' ' :: '=' :: rest) =
      .ok (name, ' ' :: '=' :: rest) := by
    unfold readKeyPart
    split
    · next same => exact absurd same (quoted (by decide) _)
    · next same => exact absurd same (quoted (by decide) _)
    · rw [front]
      dsimp only
      rw [if_neg (by simpa using nonempty), List.drop_left, String.ofList_toList]
  rw [readKey, part]
  rfl

/-- A row of characters that is read as a value up to the end of its line. -/
structure Reads (written : List Char) (v : Value) : Prop where
  first : ∃ c rest, written = c :: rest ∧ isGap c = false ∧ c ≠ '[' ∧ c ≠ '\x7b'
  scalar : ∀ after, after.head? = some '\n' → readScalar (written ++ after) = .ok (v, after)

theorem Reads.readValue {written : List Char} {v : Value} (reads : Reads written v)
    (depth : Nat) (after : List Char) (lines : after.head? = some '\n') :
    readValue depth (written ++ after) = .ok (v, after) := by
  obtain ⟨⟨c, rest, rfl, -, noArray, noTable⟩, scalar⟩ := reads
  rw [← scalar after lines]
  unfold Toml.readValue
  dsimp only [List.cons_append]
  split
  · next same => exact absurd (List.cons.inj same).1 noArray
  · next same => exact absurd (List.cons.inj same).1 noTable
  · rfl

theorem readPair_of_reads {name : String} {written : List Char} {v : Value} (bare : IsBare name)
    (reads : Reads written v) {es : Entries} (fresh : es.get? name = none)
    {after : List Char} (lines : after.head? = some '\n') :
    readPair ⟨es, []⟩ (name.toList ++ " = ".toList ++ written ++ after) =
      .ok (⟨es.add name v, []⟩, after) := by
  have key := readKey_of_bare bare (' ' :: (written ++ after))
  have gap : dropGap (' ' :: (written ++ after)) = written ++ after := by
    obtain ⟨c, rest, rfl, noGap, -, -⟩ := reads.first
    rw [dropGap, List.dropWhile_cons_of_pos (by decide)]
    exact List.dropWhile_cons_of_neg (by simp [noGap])
  have inserted : Entries.atHeader (fun es => es.insertValue [] name v) [] es =
      some (es.add name v) := by
    change Entries.addNew _ _ es = _
    unfold Entries.addNew
    rw [fresh]
  have text : name.toList ++ " = ".toList ++ written ++ after =
      name.toList ++ ' ' :: '=' :: ' ' :: (written ++ after) := by
    simp
  rw [text, readPair, key]
  dsimp only [bind, Except.bind]
  rw [expect, if_pos rfl]
  dsimp only
  rw [gap, reads.readValue _ _ lines]
  dsimp only
  rw [inserted]
  rfl

/-- A line that gives a value to a new name adds that name. -/
theorem readLines_cons {name : String} {written : List Char} {v : Value} (bare : IsBare name)
    (reads : Reads written v) {es : Entries} (fresh : es.get? name = none)
    (steps : Nat) (rest : List Char) :
    readLines (steps + 1) ⟨es, []⟩ (name.toList ++ " = ".toList ++ written ++ '\n' :: rest) =
      readLines steps ⟨es.add name v, []⟩ rest := by
  have pair := readPair_of_reads bare reads fresh (rfl : ('\n' :: rest).head? = some '\n')
  obtain ⟨c, tail, front, here⟩ := bare.exists_eq_cons
  have noHeader : c ≠ '[' := ne_of_class here (by decide)
  rw [front] at pair ⊢
  simp only [List.cons_append] at pair ⊢
  rw [readLines, skip_of_bare here]
  dsimp only [bind, Except.bind]
  rw [if_neg noHeader, pair]
  rfl

/-! ## Documents of lines -/

/-- A name with a value, and how the value is written. -/
structure Setting where
  name : String
  written : List Char
  value : Value

namespace Setting

/-- The line of a setting. -/
def line (s : Setting) : List Char :=
  s.name.toList ++ " = ".toList ++ s.written ++ ['\n']

/-- What a document holds of a setting. -/
def entry (s : Setting) : String × Value := (s.name, s.value)

/-- A setting that a reader finds in its line. -/
structure IsRead (s : Setting) : Prop where
  bare : IsBare s.name
  reads : Reads s.written s.value

end Setting

theorem readLines_settings {settings : List Setting} (read : ∀ s ∈ settings, s.IsRead)
    (distinct : (settings.map (·.name)).Nodup) {es : Entries}
    (fresh : ∀ s ∈ settings, es.get? s.name = none) {steps : Nat}
    (enough : settings.length ≤ steps) :
    readLines (steps + 1) ⟨es, []⟩ (settings.flatMap Setting.line) =
      .ok (es ++ settings.map Setting.entry) := by
  induction settings generalizing es steps with
  | nil =>
    rw [List.map_nil, List.append_nil]
    rfl
  | cons s settings ih =>
    simp only [List.mem_cons, forall_eq_or_imp] at read fresh
    rw [List.map_cons, List.nodup_cons] at distinct
    obtain ⟨steps, rfl⟩ : ∃ fewer, steps = fewer + 1 := ⟨steps - 1, by
      rw [List.length_cons] at enough
      omega⟩
    have rest : ∀ t ∈ settings, (es.add s.name s.value).get? t.name = none := by
      intro t there
      have other : t.name ≠ s.name := fun same =>
        distinct.1 (List.mem_map.2 ⟨t, there, same⟩)
      exact Entries.get?_add_of_ne (fresh.2 t there) other _
    rw [List.flatMap_cons, Setting.line, List.append_assoc, List.singleton_append,
      readLines_cons read.1.bare read.1.reads fresh.1,
      ih read.2 distinct.2 rest (Nat.le_of_succ_le_succ enough), List.map_cons, Entries.add,
      List.append_assoc]
    rfl

theorem length_le_lines (settings : List Setting) :
    settings.length ≤ (settings.flatMap Setting.line).length := by
  induction settings with
  | nil => exact Nat.le_refl 0
  | cons s settings ih =>
    have ends : 0 < s.line.length := by
      simp only [Setting.line, List.length_append, List.length_singleton]
      omega
    rw [List.flatMap_cons, List.length_append, List.length_cons]
    omega

/-- A document of lines holds the settings of the lines, in their order. -/
theorem readDocument_settings {settings : List Setting} (read : ∀ s ∈ settings, s.IsRead)
    (distinct : (settings.map (·.name)).Nodup) :
    readDocument (settings.flatMap Setting.line) = .ok (settings.map Setting.entry) := by
  have unmarked : dropMark (settings.flatMap Setting.line) = settings.flatMap Setting.line := by
    cases settings with
    | nil => rfl
    | cons s settings =>
      obtain ⟨c, tail, front, here⟩ := (read s List.mem_cons_self).bare.exists_eq_cons
      have noMark : c ≠ '\ufeff' := ne_of_class here (by decide)
      rw [List.flatMap_cons, Setting.line, front]
      simp only [List.cons_append]
      unfold dropMark
      split
      · next same => exact absurd (List.cons.inj same).1 noMark
      · rfl
  rw [readDocument, unmarked]
  exact readLines_settings read distinct (fun _ _ => rfl) (length_le_lines settings)

theorem get?_entries {settings : List Setting} (distinct : (settings.map (·.name)).Nodup)
    {s : Setting} (there : s ∈ settings) :
    Entries.get? (settings.map Setting.entry) s.name = some s.value := by
  unfold Entries.get?
  induction settings with
  | nil => cases there
  | cons t settings ih =>
    rw [List.map_cons, List.nodup_cons] at distinct
    rw [List.map_cons, Setting.entry, List.lookup_cons]
    rcases List.mem_cons.1 there with rfl | later
    · rw [beq_self_eq_true]
    · have other : s.name ≠ t.name := fun same =>
        distinct.1 (List.mem_map.2 ⟨s, later, same⟩)
      rw [beq_eq_false_iff_ne.2 other]
      exact ih distinct.2 later

theorem get?_entries_of_not_mem {settings : List Setting} {name : String}
    (missing : name ∉ settings.map (·.name)) :
    Entries.get? (settings.map Setting.entry) name = none := by
  unfold Entries.get?
  induction settings with
  | nil => rfl
  | cons s settings ih =>
    rw [List.map_cons, List.mem_cons, not_or] at missing
    rw [List.map_cons, Setting.entry, List.lookup_cons, beq_eq_false_iff_ne.2 missing.1]
    exact ih missing.2

/-! ## Kinds of settings -/

namespace Setting

/-- A setting whose value is a text. -/
def text (name s : String) : Setting :=
  ⟨name, writeString s.toList, .string s⟩

/-- A setting whose value is a number. -/
def number (name : String) (n : Nat) : Setting :=
  ⟨name, Numeral.decimal n, .integer n⟩

/-- A setting whose value is a truth value. -/
def switch (name : String) (b : Bool) : Setting :=
  ⟨name, if b then "true".toList else "false".toList, .boolean b⟩

theorem isRead_text {name : String} (bare : IsBare name) (s : String) : (text name s).IsRead := by
  refine ⟨bare, ?_, fun after lines => ?_⟩
  · change ∃ c rest, (Style.choose s.toList).write s.toList = c :: rest ∧ _
    cases Style.choose s.toList <;> exact ⟨_, _, rfl, by decide, by decide, by decide⟩
  · have read := readScalar_writeString s.toList lines
    rwa [String.ofList_toList] at read

theorem isRead_number {name : String} (bare : IsBare name) {n : Nat} (small : n < UInt64.size) :
    (number name n).IsRead := by
  refine ⟨bare, ?_, fun after lines => readScalar_decimal small lines⟩
  obtain ⟨c, rest, front⟩ := List.exists_cons_of_ne_nil (Numeral.decimal_ne_nil n)
  have digit := Numeral.isDigit_of_mem_decimal n c (front ▸ List.mem_cons_self)
  have other {d : Char} (h : Numeral.isDigit d = false) : c ≠ d := ne_of_class digit h
  refine ⟨c, rest, front, ?_, other (by decide), other (by decide)⟩
  simp only [isGap, Bool.or_eq_false_iff, beq_eq_false_iff_ne]
  exact ⟨other (by decide), other (by decide)⟩

theorem isRead_switch {name : String} (bare : IsBare name) (b : Bool) :
    (switch name b).IsRead := by
  refine ⟨bare, ?_, fun after lines => readScalar_boolean b lines⟩
  cases b
  · exact ⟨'f', _, rfl, by decide, by decide, by decide⟩
  · exact ⟨'t', _, rfl, by decide, by decide, by decide⟩

end Setting

end Toml

end EmbeddedPython
