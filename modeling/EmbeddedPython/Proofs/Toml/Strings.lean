import EmbeddedPython.Toml.Scalar

/-!
# Strings that are read as they were written

`Style.Spells` says which characters stand for a text between the quotes of a
style.  What a style writes spells the text (`Style.spells_spelling`), and each
reader of strings finds the text in a spelling (`Style.Spells.basicBody`,
`Style.Spells.literalBody`, `Style.Spells.longBody`).  So the string of a text is
read as that text, whichever style was chosen (`readScalar_writeString`).
-/

namespace EmbeddedPython

namespace Toml

/-! ## Escapes -/

/-- Characters behind a backslash that a reader takes for one character. -/
def IsEscape (spelling : List Char) (c : Char) : Prop :=
  ∀ rest, escape? (spelling ++ rest) = some (c, spelling.length) ∧
    atLineEnd (spelling ++ rest) = false

theorem isEscape_quote : IsEscape [doubleQuote] doubleQuote := fun _ => ⟨rfl, rfl⟩

theorem isEscape_backslash : IsEscape ['\\'] '\\' := fun _ => ⟨rfl, rfl⟩

/-- The digits of a number of one octet. -/
theorem hexadecimal_of_lt {n : Nat} (h : n < 0x100) : Numeral.padded 4 (Numeral.hexadecimal n) =
    ['0', '0', Numeral.digit (n / 16), Numeral.digit (n % 16)] := by
  rw [Numeral.hexadecimal]
  split
  · next small =>
    rw [Nat.div_eq_of_lt small, Nat.mod_eq_of_lt small]
    rfl
  · rw [Numeral.hexadecimal, if_pos (by omega)]
    rfl

theorem hexValue?_toUpper_digit :
    ∀ n < 16, Numeral.hexValue? (Numeral.digit n).toUpper = some n := by
  decide

theorem hexNumber?_of_octet {n : Nat} (h : n < 0x100) :
    hexNumber? ['0', '0', (Numeral.digit (n / 16)).toUpper, (Numeral.digit (n % 16)).toUpper] =
      some n := by
  have zero : Numeral.hexValue? '0' = some 0 := rfl
  have high := hexValue?_toUpper_digit (n / 16) (by omega)
  have low := hexValue?_toUpper_digit (n % 16) (by omega)
  simp only [hexNumber?, List.mapM_cons, List.mapM_nil, zero, high, low, Option.pure_def,
    Option.bind_eq_bind, Option.bind_some, Option.map_some, List.foldl_cons, List.foldl_nil]
  congr 1
  omega

theorem numberedEscape?_append {digits : List Char} {n : Nat}
    (number : hexNumber? digits = some n) (valid : n.isValidChar) (rest : List Char) :
    numberedEscape? digits.length (digits ++ rest) =
      some (Char.ofNat n, digits.length + 1) := by
  rw [numberedEscape?, List.take_left, if_pos rfl, number, Option.bind_some, scalar?,
    if_pos valid, Option.map_some]

theorem escape?_u (rest : List Char) : escape? ('u' :: rest) = numberedEscape? 4 rest := by
  simp [escape?, doubleQuote]

/-- A reader takes the number of a small character for that character. -/
theorem isEscape_numbered {c : Char} (small : c.toNat < 0x100) :
    IsEscape ('u' :: (Numeral.padded 4 (Numeral.hexadecimal c.toNat)).map Char.toUpper) c := by
  intro rest
  have upper : Char.toUpper '0' = '0' := rfl
  simp only [hexadecimal_of_lt small, List.map_cons, List.map_nil, upper]
  refine ⟨?_, rfl⟩
  have read := numberedEscape?_append (hexNumber?_of_octet small) c.valid rest
  rw [Char.ofNat_toNat] at read
  exact (escape?_u _).trans read

/-! ## Spellings -/

namespace Style

/-- The quote that ends a string of a style. -/
def quote : Style → Char
  | basic | longBasic => doubleQuote
  | literal | longLiteral => singleQuote

/-- Characters that stand between the quotes of a style for a text, behind a
row of `run` quotes.  No row of quotes inside is as long as an end. -/
inductive Spells (style : Style) : Nat → List Char → List Char → Prop
  | done (run : Nat) : Spells style run [] []
  | quote {run : Nat} {written cs : List Char} (room : run < style.quotesInside)
      (more : Spells style (run + 1) written cs) :
      Spells style run (style.quote :: written) (style.quote :: cs)
  | plain {run : Nat} {written cs : List Char} {c : Char} (other : c ≠ style.quote)
      (escapes : style.hasEscapes = true → c ≠ '\\') (shown : isControl c = false)
      (lines : c = '\n' → style.isLong = true) (more : Spells style 0 written cs) :
      Spells style run (c :: written) (c :: cs)
  | escape {run : Nat} {spelling written cs : List Char} {c : Char}
      (escapes : style.hasEscapes = true) (reads : IsEscape spelling c)
      (more : Spells style 0 written cs) :
      Spells style run ('\\' :: (spelling ++ written)) (c :: cs)

theorem quote_of_hasEscapes {style : Style} (escapes : style.hasEscapes = true) :
    style.quote = doubleQuote := by
  cases style <;> first | rfl | cases escapes

/-- The spelling of a character other than a double quote. -/
theorem Spells.escaped {style : Style} (escapes : style.hasEscapes = true) {c : Char}
    (other : c ≠ doubleQuote) {written cs : List Char} (more : Spells style 0 written cs)
    (run : Nat) : Spells style run (style.escaped c ++ written) (c :: cs) := by
  have spelled {spelling : List Char} (reads : IsEscape spelling c) :
      Spells style run (('\\' :: spelling) ++ written) (c :: cs) := .escape escapes reads more
  have itself (noBackslash : c ≠ '\\') (shown : isControl c = false)
      (lines : c = '\n' → style.isLong = true) :
      Spells style run ([c] ++ written) (c :: cs) :=
    .plain (quote_of_hasEscapes escapes ▸ other) (fun _ => noBackslash) shown lines more
  fun_cases Style.escaped style c
  · next same => exact spelled (same ▸ isEscape_backslash)
  · next same => exact spelled (same ▸ fun _ => ⟨rfl, rfl⟩)
  · next noBackslash _ same long => exact itself noBackslash (same ▸ rfl) fun _ => long
  · next same _ => exact spelled (same ▸ fun _ => ⟨rfl, rfl⟩)
  · next same => exact spelled (same ▸ fun _ => ⟨rfl, rfl⟩)
  · next same => exact spelled (same ▸ fun _ => ⟨rfl, rfl⟩)
  · next same => exact spelled (same ▸ fun _ => ⟨rfl, rfl⟩)
  · next control =>
    refine spelled (isEscape_numbered ?_)
    simp only [isControl, Bool.and_eq_true, Bool.or_eq_true, decide_eq_true_eq,
      beq_iff_eq] at control
    omega
  · next noBackslash _ noLineEnd _ _ _ hidden =>
    exact itself noBackslash (Bool.eq_false_iff.2 hidden) fun same => absurd same noLineEnd

/-- A style with escapes spells every text. -/
theorem spells_escapeFrom {style : Style} (escapes : style.hasEscapes = true) (run : Nat)
    (cs : List Char) : Spells style run (style.escapeFrom run cs) cs := by
  induction cs generalizing run with
  | nil => exact .done run
  | cons c cs ih =>
    unfold escapeFrom
    split
    · next same =>
      subst same
      split
      · next room =>
        have spelled := Spells.quote room (ih (run + 1))
        rwa [quote_of_hasEscapes escapes] at spelled
      · exact .escape escapes isEscape_quote (ih 0)
    · next other => exact .escaped escapes other (ih 0) run

theorem le_longestRunFrom (c : Char) (run : Nat) (cs : List Char) :
    run ≤ longestRunFrom c run cs := by
  induction cs generalizing run with
  | nil => exact Nat.le_refl run
  | cons d rest ih =>
    unfold longestRunFrom
    split
    · exact Nat.le_trans (Nat.le_succ run) (ih (run + 1))
    · exact Nat.le_max_left ..

theorem spells_literal {cs : List Char} (shown : ∀ c ∈ cs, isControl c = false)
    (quotes : singleQuote ∉ cs) (lines : '\n' ∉ cs) : Spells literal 0 cs cs := by
  induction cs with
  | nil => exact .done 0
  | cons c cs ih =>
    simp only [List.mem_cons, not_or, forall_eq_or_imp] at shown quotes lines
    exact .plain (Ne.symm quotes.1) (fun escapes => nomatch escapes) shown.1
      (fun same => absurd same.symm lines.1) (ih shown.2 quotes.2 lines.2)

theorem spells_longLiteral {cs : List Char} (shown : ∀ c ∈ cs, isControl c = false) {run : Nat}
    (short : longestRunFrom singleQuote run cs ≤ 2) : Spells longLiteral run cs cs := by
  induction cs generalizing run with
  | nil => exact .done run
  | cons c cs ih =>
    simp only [List.mem_cons, forall_eq_or_imp] at shown
    unfold longestRunFrom at short
    split at short
    · next same =>
      subst same
      have room : run < longLiteral.quotesInside :=
        Nat.le_trans (le_longestRunFrom singleQuote (run + 1) cs) short
      exact .quote room (ih shown.2 short)
    · next other =>
      exact .plain other (fun escapes => nomatch escapes) shown.1 (fun _ => rfl)
        (ih shown.2 (Nat.le_trans (Nat.le_max_right ..) short))

/-- A style without escapes spells a text that it holds by itself. -/
theorem spells_self {style : Style} (plain : style.hasEscapes = false) {cs : List Char}
    (holds : style.holds cs = true) : Spells style 0 cs cs := by
  simp only [Style.holds, Bool.and_eq_true, Bool.not_eq_true', List.any_eq_false,
    Bool.not_eq_true] at holds
  obtain ⟨shown, fits⟩ := holds
  cases style with
  | basic | longBasic => cases plain
  | literal =>
    simp only [Bool.and_eq_true, Bool.not_eq_true', List.contains_eq_mem,
      decide_eq_false_iff_not] at fits
    exact spells_literal shown fits.1 fits.2
  | longLiteral => exact spells_longLiteral shown (of_decide_eq_true fits)

/-! ## Reading spellings -/

/-- A string of a short style has no line ends and no control characters. -/
theorem not_lineEnd_or_control {style : Style} (short : style.isLong = false) {c : Char}
    (shown : isControl c = false) (lines : c = '\n' → style.isLong = true) :
    ¬(decide (c = '\n') || isControl c) = true := by
  have noLineEnd : c ≠ '\n' := by
    intro same
    rw [lines same] at short
    cases short
  simp [noLineEnd, shown]

theorem Spells.basicBody {run : Nat} {written cs : List Char}
    (spelled : Spells basic run written cs) (after : List Char) :
    basicBody (written ++ doubleQuote :: after) = .ok (cs, after) := by
  induction spelled with
  | done run => rw [List.nil_append, Toml.basicBody, if_pos rfl]
  | quote room => exact absurd room (Nat.not_lt_zero _)
  | @plain _ _ _ c other escapes shown lines more ih =>
    have noQuote : c ≠ doubleQuote := other
    have single := not_lineEnd_or_control rfl shown lines
    rw [List.cons_append, Toml.basicBody, if_neg noQuote, if_neg (escapes rfl), if_neg single, ih]
    rfl
  | escape escapes reads more ih =>
    rw [List.cons_append, Toml.basicBody, if_neg (by decide), if_pos rfl, List.append_assoc,
      (reads _).1]
    dsimp only
    rw [List.drop_left, ih]
    rfl

theorem Spells.literalBody {run : Nat} {written cs : List Char}
    (spelled : Spells literal run written cs) (after : List Char) :
    literalBody (written ++ singleQuote :: after) = .ok (cs, after) := by
  induction spelled with
  | done run => rfl
  | quote room => exact absurd room (Nat.not_lt_zero _)
  | @plain _ _ _ c other escapes shown lines more ih =>
    have noQuote : c ≠ singleQuote := other
    have single := not_lineEnd_or_control rfl shown lines
    rw [List.cons_append, Toml.literalBody, if_neg noQuote, if_neg single, ih]
    rfl
  | escape escapes => cases escapes

theorem leadingRun_cons_self (c : Char) (cs : List Char) :
    leadingRun c (c :: cs) = leadingRun c cs + 1 := by
  simp [leadingRun]

theorem leadingRun_cons_of_ne {c d : Char} (h : d ≠ c) (cs : List Char) :
    leadingRun c (d :: cs) = 0 := by
  simp [leadingRun, h]

theorem leadingRun_replicate (c : Char) (count : Nat) (cs : List Char) :
    leadingRun c (List.replicate count c ++ cs) = leadingRun c cs + count := by
  induction count with
  | zero => rfl
  | succ count ih =>
    rw [List.replicate_succ, List.cons_append, leadingRun_cons_self, ih]
    rfl

/-- A row of quotes in a spelling is all that is left of it, or too short for
an end. -/
theorem Spells.row {style : Style} {run : Nat} {written cs : List Char}
    (spelled : Spells style run written cs) (short : run ≤ style.quotesInside) :
    (∃ count, run + count ≤ style.quotesInside ∧ written = List.replicate count style.quote ∧
      cs = List.replicate count style.quote) ∨
    (∀ tail, run + leadingRun style.quote (written ++ tail) ≤ style.quotesInside) := by
  induction spelled with
  | done run => exact .inl ⟨0, short, rfl, rfl⟩
  | quote room more ih =>
    rcases ih room with ⟨count, most, rfl, rfl⟩ | most
    · exact .inl ⟨count + 1, by omega, rfl, rfl⟩
    · refine .inr fun tail => ?_
      have most := most tail
      rw [List.cons_append, leadingRun_cons_self]
      omega
  | plain other =>
    refine .inr fun tail => ?_
    rw [List.cons_append, leadingRun_cons_of_ne other]
    exact short
  | escape =>
    refine .inr fun tail => ?_
    rw [List.cons_append, leadingRun_cons_of_ne (by cases style <;> decide)]
    exact short

/-- A row of at least three quotes ends a long string. -/
theorem longBody_of_row {q : Char} {escapes : Bool} {cs : List Char} {inside : Nat}
    (row : quotesBeforeEnd? q cs = some inside) :
    longBody q escapes cs = .ok (List.replicate inside q, cs.drop (inside + 3)) := by
  unfold longBody
  cases cs with
  | nil => cases row
  | cons c rest =>
    dsimp only
    rw [row]

theorem longBody_plain {q c : Char} {escapes : Bool} {rest body after : List Char}
    (row : quotesBeforeEnd? q (c :: rest) = none) (plain : escapes = true → c ≠ '\\')
    (shown : isControl c = false) (more : longBody q escapes rest = .ok (body, after)) :
    longBody q escapes (c :: rest) = .ok (c :: body, after) := by
  have noEscape : ¬(decide (c = '\\') && escapes) = true := by
    rw [Bool.and_eq_true, decide_eq_true_eq]
    exact fun h => plain h.2 h.1
  have noReturn : c ≠ '\r' := by
    rintro rfl
    cases shown
  unfold longBody
  dsimp only
  rw [row]
  dsimp only
  rw [if_neg noEscape, if_neg noReturn, shown, more]
  rfl

theorem longBody_escape {q c : Char} {spelling rest body after : List Char}
    (row : quotesBeforeEnd? q ('\\' :: (spelling ++ rest)) = none) (reads : IsEscape spelling c)
    (more : longBody q true rest = .ok (body, after)) :
    longBody q true ('\\' :: (spelling ++ rest)) = .ok (c :: body, after) := by
  unfold longBody
  dsimp only
  rw [row]
  dsimp only
  rw [if_pos (by decide), (reads rest).2, (reads rest).1]
  dsimp only
  rw [List.drop_left, more]
  rfl

theorem leadingRun_eq_zero {q : Char} {cs : List Char} (other : cs.head? ≠ some q) :
    leadingRun q cs = 0 := by
  cases cs with
  | nil => rfl
  | cons c rest => exact leadingRun_cons_of_ne (fun same => other (congrArg some same)) rest

/-- A row of quotes that is all that is left ends the string. -/
theorem longBody_closing {style : Style} (long : style.isLong = true) {count : Nat}
    (most : count ≤ 2) {after : List Char} (other : after.head? ≠ some style.quote) :
    longBody style.quote style.hasEscapes
      (List.replicate count style.quote ++ (style.quotes ++ after)) =
      .ok (List.replicate count style.quote, after) := by
  have quotes : style.quotes = List.replicate 3 style.quote := by
    cases style <;> first | rfl | cases long
  have row : leadingRun style.quote
      (List.replicate count style.quote ++ (style.quotes ++ after)) = 3 + count := by
    rw [quotes, leadingRun_replicate, leadingRun_replicate, leadingRun_eq_zero other, Nat.zero_add]
  have inside : quotesBeforeEnd? style.quote
      (List.replicate count style.quote ++ (style.quotes ++ after)) = some count := by
    unfold quotesBeforeEnd?
    rw [row, if_pos (by omega)]
    congr 1
    omega
  rw [longBody_of_row inside, quotes, ← List.append_assoc, List.replicate_append_replicate,
    List.drop_left' (List.length_replicate ..)]

theorem Spells.longBody {style : Style} (long : style.isLong = true) {run : Nat}
    {written cs : List Char} (spelled : Spells style run written cs)
    (short : run ≤ style.quotesInside) {after : List Char}
    (other : after.head? ≠ some style.quote) :
    longBody style.quote style.hasEscapes (written ++ (style.quotes ++ after)) =
      .ok (cs, after) := by
  have two : style.quotesInside = 2 := if_pos long
  -- A shorter row is read one quote after the other.
  have inner {text : List Char} (few : leadingRun style.quote text ≤ 2) :
      quotesBeforeEnd? style.quote text = none := if_neg (by omega)
  induction spelled with
  | done run => exact longBody_closing long (Nat.zero_le 2) other
  | @quote run written cs room more ih =>
    rcases (Spells.quote room more).row short with ⟨count, most, same, same'⟩ | few
    · rw [same, same']
      exact longBody_closing long (by omega) other
    · rw [List.cons_append]
      refine longBody_plain (inner ?_) (fun _ => by cases style <;> decide)
        (by cases style <;> rfl) (ih room)
      have few := few (style.quotes ++ after)
      rw [List.cons_append] at few
      omega
  | plain other escapes shown lines more ih =>
    refine longBody_plain (inner ?_) escapes shown (ih (Nat.zero_le _))
    rw [leadingRun_cons_of_ne other]
    exact Nat.zero_le 2
  | escape escapes reads more ih =>
    rw [escapes] at ih ⊢
    rw [List.cons_append, List.append_assoc]
    refine longBody_escape (inner ?_) reads (ih (Nat.zero_le _))
    rw [leadingRun_cons_of_ne (by cases style <;> decide)]
    exact Nat.zero_le 2

/-! ## Reading strings -/

/-- The characters between the quotes, without a line end in front. -/
def spelling (style : Style) (cs : List Char) : List Char :=
  if style.hasEscapes then style.escapeFrom 0 cs else cs

theorem spells_spelling {style : Style} {cs : List Char}
    (fits : style.hasEscapes = true ∨ style.holds cs = true) :
    Spells style 0 (style.spelling cs) cs := by
  unfold spelling
  split
  · next escapes => exact spells_escapeFrom escapes 0 cs
  · next plain => exact spells_self (Bool.eq_false_iff.2 plain) (fits.resolve_left plain)

/-- The first character of a spelling. -/
theorem Spells.first {style : Style} {run : Nat} {c : Char} {written cs : List Char}
    (spelled : Spells style run (c :: written) cs) :
    c ≠ '\r' ∧ (c = '\n' → '\n' ∈ cs) ∧ (style.isLong = false → c ≠ style.quote) := by
  cases spelled with
  | quote room more =>
    refine ⟨by cases style <;> decide, fun same => same ▸ List.mem_cons_self, fun short => ?_⟩
    rw [quotesInside, short] at room
    exact absurd room (Nat.not_lt_zero _)
  | plain other escapes shown lines more =>
    refine ⟨?_, fun same => same ▸ List.mem_cons_self, fun _ => other⟩
    rintro rfl
    cases shown
  | escape =>
    exact ⟨by decide, fun same => absurd same (by decide), fun _ => by cases style <;> decide⟩

theorem dropFirstLineEnd_body {style : Style} (long : style.isLong = true) {cs : List Char}
    (spelled : Spells style 0 (style.spelling cs) cs) (after : List Char) :
    dropFirstLineEnd (style.body cs ++ (style.quotes ++ after)) =
      style.spelling cs ++ (style.quotes ++ after) := by
  have kept {c : Char} {rest : List Char} (noLineEnd : c ≠ '\n') (noReturn : c ≠ '\r') :
      dropFirstLineEnd (c :: rest) = c :: rest := by
    unfold dropFirstLineEnd
    split
    · next same => exact absurd (List.cons.inj same).1 noLineEnd
    · next same => exact absurd (List.cons.inj same).1 noReturn
    · rfl
  unfold body
  rw [long, Bool.true_and]
  split
  · rfl
  · next noLineEnd =>
    rw [List.contains_eq_mem, decide_eq_true_eq] at noLineEnd
    change dropFirstLineEnd ([] ++ style.spelling cs ++ (style.quotes ++ after)) = _
    rw [List.nil_append]
    cases written : style.spelling cs with
    | nil => cases style <;> rfl
    | cons c rest =>
      rw [written] at spelled
      obtain ⟨noReturn, lines, -⟩ := spelled.first
      exact kept (fun same => noLineEnd (lines same)) noReturn

end Style

theorem readScalar_basic {cs : List Char}
    (single : ∀ rest, cs ≠ doubleQuote :: doubleQuote :: rest) :
    readScalar (doubleQuote :: cs) = (readBasic cs).map fun read => (.string read.1, read.2) := by
  unfold readScalar
  dsimp only
  split
  · next same => exact absurd (List.cons.inj same).2 (single _)
  · next same => cases (List.cons.inj same).1
  · next same => rw [(List.cons.inj same).2]
  · next same => cases (List.cons.inj same).1
  · next basic _ => exact absurd rfl (basic cs)

theorem readScalar_literal {cs : List Char}
    (single : ∀ rest, cs ≠ singleQuote :: singleQuote :: rest) :
    readScalar (singleQuote :: cs) = (readLiteral cs).map fun read => (.string read.1, read.2) := by
  unfold readScalar
  dsimp only
  split
  · next same => cases (List.cons.inj same).1
  · next same => exact absurd (List.cons.inj same).2 (single _)
  · next same => cases (List.cons.inj same).1
  · next same => rw [(List.cons.inj same).2]
  · next literal => exact absurd rfl (literal cs)

theorem readScalar_long {style : Style} (long : style.isLong = true) (cs : List Char) :
    readScalar (style.quotes ++ cs) = (readLong style.quote style.hasEscapes cs).map fun read =>
      (.string read.1, read.2) := by
  cases style <;> first | rfl | cases long

theorem readLong_body {style : Style} (long : style.isLong = true) {cs : List Char}
    (spelled : Style.Spells style 0 (style.spelling cs) cs) {after : List Char}
    (other : after.head? ≠ some style.quote) :
    readLong style.quote style.hasEscapes (style.body cs ++ (style.quotes ++ after)) =
      .ok (String.ofList cs, after) := by
  rw [readLong, Style.dropFirstLineEnd_body long spelled,
    spelled.longBody long (Nat.zero_le _) other]
  rfl

/-- A string is read as the text that was written. -/
theorem readScalar_write {style : Style} {cs : List Char}
    (fits : style.hasEscapes = true ∨ style.holds cs = true) {after : List Char}
    (other : after.head? ≠ some style.quote) :
    readScalar (style.write cs ++ after) = .ok (.string (String.ofList cs), after) := by
  have spelled := Style.spells_spelling fits
  -- What follows the quote of a short style is no pair of quotes.
  have single {q : Char} (same : style.quote = q) (short : style.isLong = false)
      (rest : List Char) : style.spelling cs ++ q :: after ≠ q :: q :: rest := by
    subst same
    cases written : style.spelling cs with
    | nil =>
      intro same
      rw [(List.cons.inj same).2] at other
      exact other rfl
    | cons c written' =>
      rw [written] at spelled
      exact fun same => spelled.first.2.2 short (List.cons.inj same).1
  cases short : style.isLong with
  | true =>
    rw [Style.write, List.append_assoc, List.append_assoc, readScalar_long short,
      readLong_body short spelled other]
    rfl
  | false =>
    cases style with
    | basic =>
      change readScalar (doubleQuote :: (Style.spelling .basic cs ++ [doubleQuote] ++ after)) = _
      rw [List.append_assoc, List.singleton_append, readScalar_basic (single rfl rfl), readBasic,
        spelled.basicBody]
      rfl
    | literal =>
      change readScalar (singleQuote :: (Style.spelling .literal cs ++ [singleQuote] ++ after)) = _
      rw [List.append_assoc, List.singleton_append, readScalar_literal (single rfl rfl),
        readLiteral, spelled.literalBody]
      rfl
    | longBasic | longLiteral => cases short

theorem choose_fits (cs : List Char) :
    (Style.choose cs).hasEscapes = true ∨ (Style.choose cs).holds cs = true := by
  unfold Style.choose
  split
  · next style found =>
    have holds := List.find?_some found
    exact .inr holds
  · split <;> exact .inl rfl

/-- The string of a text is read as that text. -/
theorem readScalar_writeString (cs : List Char) {after : List Char}
    (lines : after.head? = some '\n') :
    readScalar (writeString cs ++ after) = .ok (.string (String.ofList cs), after) := by
  refine readScalar_write (choose_fits cs) ?_
  rw [lines]
  cases Style.choose cs <;> decide

end Toml

end EmbeddedPython
