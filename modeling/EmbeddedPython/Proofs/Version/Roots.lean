import EmbeddedPython.Host
import EmbeddedPython.Proofs.Text.Boundaries
import EmbeddedPython.Proofs.Text.Numerals
import Mathlib.Data.List.TakeWhile

/-!
# The series that a root names

What follows the last marker in the text of a root, up to the next separator, decides
which series the root names, and nothing else does (`Version.ofRoot_reads_name`).

The marker is looked for in a copy of the octets in lower case, and the text itself is
cut at the offset that was found there (`Version.scan`).  No root is cut within a
character, and what is behind the cut is what the characters show (`Version.scan_eq`).
-/

namespace EmbeddedPython.Version

open Octets

/-! ## Markers -/

/-- The marker, with its letters in any case. -/
def IsMarker (word : List Char) : Prop := lowercase word = marker

instance (word : List Char) : Decidable (IsMarker word) := inferInstanceAs (Decidable (_ = _))

/-- There is a marker somewhere in a text. -/
def HasMarker (cs : List Char) : Prop :=
  ∃ front word rest, cs = front ++ word ++ rest ∧ IsMarker word

theorem IsMarker.length {word : List Char} (h : IsMarker word) : word.length = 6 := by
  have same := congrArg List.length h
  rwa [lowercase, List.length_map] at same

theorem isPrefixOf_lowercase_iff {cs : List Char} :
    marker.isPrefixOf (lowercase cs) = true ↔ ∃ word rest, cs = word ++ rest ∧ IsMarker word := by
  rw [List.isPrefixOf_iff_prefix]
  constructor
  · rintro ⟨rest, same⟩
    obtain ⟨word, rest', rfl, lowered, -⟩ := List.append_eq_map_iff.1 same
    exact ⟨word, rest', rfl, lowered⟩
  · rintro ⟨word, rest, rfl, isMarker⟩
    rw [lowercase, List.map_append, show word.map Char.toLower = marker from isMarker]
    exact List.prefix_append _ _

theorem HasMarker.append_left {cs : List Char} (h : HasMarker cs) (front : List Char) :
    HasMarker (front ++ cs) := by
  obtain ⟨before, word, rest, rfl, isMarker⟩ := h
  exact ⟨front ++ before, word, rest, by simp, isMarker⟩

theorem hasMarker_cons_iff {c : Char} {cs : List Char} :
    HasMarker (c :: cs) ↔ HasMarker cs ∨ marker.isPrefixOf (lowercase (c :: cs)) = true := by
  constructor
  · rintro ⟨front, word, rest, same, isMarker⟩
    cases front with
    | nil => exact .inr (isPrefixOf_lowercase_iff.2 ⟨word, rest, same, isMarker⟩)
    | cons d front =>
      obtain ⟨-, rfl⟩ := List.cons.inj same
      exact .inl ⟨front, word, rest, rfl, isMarker⟩
  · rintro (h | h)
    · exact h.append_left [c]
    · obtain ⟨word, rest, same, isMarker⟩ := isPrefixOf_lowercase_iff.1 h
      exact ⟨[], word, rest, same, isMarker⟩

theorem not_hasMarker_nil : ¬HasMarker [] := by
  rintro ⟨front, word, rest, same, isMarker⟩
  have length := isMarker.length
  have total := congrArg List.length same
  simp only [List.length_append, List.length_nil] at total
  omega

theorem afterMarker?_eq_none_iff {cs : List Char} : afterMarker? cs = none ↔ ¬HasMarker cs := by
  induction cs with
  | nil => exact iff_of_true rfl not_hasMarker_nil
  | cons c cs ih =>
    rw [hasMarker_cons_iff, not_or, ← ih, afterMarker?]
    cases afterMarker? cs with
    | some rest => simp
    | none => simp

/-- The marker overlaps no other one: none of its letters but the first is a `p`. -/
theorem not_hasMarker_tail {c : Char} {word rest : List Char} (isMarker : IsMarker (c :: word))
    (last : ¬HasMarker rest) : ¬HasMarker (word ++ rest) := by
  have letters : word.map Char.toLower = marker.tail := congrArg List.tail isMarker
  have others : ∀ d ∈ word, d.toLower ≠ 'p' := by
    intro d mem same
    have there : 'p' ∈ marker.tail := by
      rw [← letters, ← same]
      exact List.mem_map_of_mem mem
    exact absurd there (by decide)
  clear isMarker letters
  induction word with
  | nil => exact last
  | cons d word ih =>
    rw [List.cons_append, hasMarker_cons_iff, not_or]
    refine ⟨ih fun e mem => others e (List.mem_cons_of_mem d mem), fun starts => ?_⟩
    have first : 'p' = d.toLower := by
      simp only [marker, lowercase, List.map_cons] at starts
      have both := (Bool.and_eq_true _ _).mp starts
      exact beq_iff_eq.1 both.1
    exact others d List.mem_cons_self first.symm

/-- What follows the last marker. -/
theorem afterMarker?_of_last (front : List Char) {word rest : List Char} (isMarker : IsMarker word)
    (last : ¬HasMarker rest) : afterMarker? (front ++ word ++ rest) = some rest := by
  induction front with
  | nil =>
    have length := isMarker.length
    cases word with
    | nil => cases length
    | cons c word =>
      have starts : marker.isPrefixOf (lowercase (c :: (word ++ rest))) = true :=
        isPrefixOf_lowercase_iff.2 ⟨c :: word, rest, rfl, isMarker⟩
      have none := afterMarker?_eq_none_iff.2 (not_hasMarker_tail isMarker last)
      have six : marker.length = (c :: word).length := length.symm
      rw [List.nil_append, List.cons_append, afterMarker?, none]
      dsimp only
      rw [if_pos starts, six, ← List.cons_append, List.drop_left]
  | cons c front ih =>
    rw [List.cons_append, List.cons_append, afterMarker?, ih]

/-! ## Cuts behind a marker -/

/-- The octets of the marker in lower case. -/
def markerOctets : Octets := marker.flatMap encodeChar

/-- What the look for the last marker comes to. -/
inductive Scan where
  | absent
  /-- The text would be cut within a character. -/
  | broken
  | behind (octets : Octets)
deriving Repr, DecidableEq

/-- Looks for the last marker in a copy of a text in lower case, and cuts the text itself
behind the offset that it has in the copy. -/
def scan (octets : Octets) : Scan :=
  match lastOffset? markerOctets (octets.map lowerOctet) with
  | none => .absent
  | some offset =>
    if isBoundary octets (offset + markerOctets.length) then
      .behind (octets.drop (offset + markerOctets.length))
    else .broken

theorem length_flatMap_of_isMarker {word : List Char} (h : IsMarker word) :
    (word.flatMap encodeChar).length = markerOctets.length := by
  have lowered : (word.flatMap encodeChar).map lowerOctet = markerOctets := by
    rw [map_lowerOctet_flatMap, markerOctets, ← h]
    rfl
  rw [← lowered, List.length_map]

/-- The marker stands in the octets where it stands in the characters. -/
theorem lastOffset?_marker (cs : List Char) :
    (afterMarker? cs = none →
      lastOffset? markerOctets ((cs.flatMap encodeChar).map lowerOctet) = none) ∧
    ∀ rest, afterMarker? cs = some rest → ∃ front word, cs = front ++ word ++ rest ∧
      IsMarker word ∧ lastOffset? markerOctets ((cs.flatMap encodeChar).map lowerOctet) =
        some (front.flatMap encodeChar).length := by
  have ascii : ∀ b ∈ markerOctets, b.toNat < 0x80 := forall_mem_of_all (by decide)
  induction cs with
  | nil => exact ⟨fun _ => rfl, nofun⟩
  | cons c cs ih =>
    obtain ⟨none, found⟩ := ih
    have starts : markerOctets.isPrefixOf (encodeChar c.toLower ++
          (cs.flatMap encodeChar).map lowerOctet) =
        marker.isPrefixOf (lowercase (c :: cs)) := by
      rw [map_lowerOctet_flatMap, ← List.flatMap_cons, ← List.map_cons]
      exact isPrefixOf_flatMap (forall_mem_of_all (by decide)) _
    rw [List.flatMap_cons, List.map_append, ← encodeChar_toLower,
      lastOffset?_encodeChar_append (by decide) ascii, starts, afterMarker?]
    cases behind : afterMarker? cs with
    | some rest =>
      refine ⟨nofun, fun rest' same => ?_⟩
      obtain rfl : rest = rest' := Option.some.inj same
      obtain ⟨front, word, rfl, isMarker, offset⟩ := found rest behind
      refine ⟨c :: front, word, rfl, isMarker, ?_⟩
      have long : (encodeChar c.toLower).length = (encodeChar c).length := by
        rw [encodeChar_toLower, List.length_map]
      rw [offset, List.flatMap_cons, List.length_append, long]
    | none =>
      rw [none behind]
      dsimp only
      cases first : marker.isPrefixOf (lowercase (c :: cs)) with
      | false => exact ⟨fun _ => rfl, nofun⟩
      | true =>
        obtain ⟨word, rest, same, isMarker⟩ := isPrefixOf_lowercase_iff.1 first
        have six : marker.length = word.length := isMarker.length.symm
        refine ⟨nofun, fun rest' found => ⟨[], word, ?_, isMarker, rfl⟩⟩
        rw [if_pos rfl, same, six, List.drop_left] at found
        rw [same, Option.some.inj found]
        rfl

/-- No text is cut within a character, and what is behind the cut is what the characters
show. -/
theorem scan_eq (cs : List Char) :
    scan (cs.flatMap encodeChar) =
      match afterMarker? cs with
      | none => .absent
      | some rest => .behind (rest.flatMap encodeChar) := by
  obtain ⟨absent, found⟩ := lastOffset?_marker cs
  unfold scan
  cases behind : afterMarker? cs with
  | none => rw [absent behind]
  | some rest =>
    obtain ⟨front, word, rfl, isMarker, offset⟩ := found rest behind
    have place : (front.flatMap encodeChar).length + markerOctets.length =
        ((front ++ word).flatMap encodeChar).length := by
      rw [List.flatMap_append, List.length_append, length_flatMap_of_isMarker isMarker]
    have whole : (front ++ word ++ rest).flatMap encodeChar =
        (front ++ word).flatMap encodeChar ++ rest.flatMap encodeChar := List.flatMap_append
    rw [offset]
    dsimp only
    rw [place, isBoundary_length, if_pos rfl, whole, List.drop_left]

/-! ## Names -/

/-- The longest row of digits and dots in a name that starts with the first digit. -/
def IsNumeric (name numeric : List Char) : Prop :=
  ∃ front rest, name = front ++ numeric ++ rest ∧
    (∀ c ∈ front, Numeral.isDigit c = false) ∧
    (∃ digit ∈ numeric.head?, Numeral.isDigit digit = true) ∧
    (∀ c ∈ numeric, (Numeral.isDigit c || c == '.') = true) ∧
    ∀ c ∈ rest.head?, (Numeral.isDigit c || c == '.') = false

theorem numericPart_of_no_digit {name : List Char}
    (h : ∀ c ∈ name, Numeral.isDigit c = false) : numericPart name = [] := by
  have none : (name.dropWhile fun c => !Numeral.isDigit c) = [] := by
    rw [List.dropWhile_eq_nil_iff]
    intro c mem
    rw [h c mem]
    rfl
  rw [numericPart, none]
  rfl

theorem IsNumeric.numericPart_eq {name numeric : List Char} (h : IsNumeric name numeric) :
    numericPart name = numeric := by
  obtain ⟨front, rest, rfl, before, ⟨digit, first, isDigit⟩, row, behind⟩ := h
  obtain ⟨more, rfl⟩ := List.head?_eq_some_iff.1 first
  have skipped : ((front ++ digit :: more ++ rest).dropWhile fun c => !Numeral.isDigit c) =
      digit :: more ++ rest := by
    rw [List.append_assoc, List.dropWhile_append_of_pos]
    · rw [List.cons_append, List.dropWhile_cons_of_neg]
      simp [isDigit]
    · intro c mem
      simp [before c mem]
  rw [numericPart, skipped, List.takeWhile_append_of_pos row]
  cases rest with
  | nil => simp
  | cons c rest =>
    have ends : (Numeral.isDigit c || c == '.') = false := behind c rfl
    rw [List.takeWhile_cons_of_neg (by rw [ends]; decide), List.append_nil]

/-- A name with a digit has such a row. -/
theorem exists_isNumeric {name : List Char} (h : ∃ c ∈ name, Numeral.isDigit c = true) :
    ∃ numeric, IsNumeric name numeric := by
  obtain ⟨c, mem, isDigit⟩ := h
  induction name with
  | nil => cases mem
  | cons d name ih =>
    by_cases first : Numeral.isDigit d = true
    · refine ⟨(d :: name).takeWhile fun c => Numeral.isDigit c || c == '.', [],
        (d :: name).dropWhile fun c => Numeral.isDigit c || c == '.', ?_, nofun, ⟨d, ?_, first⟩,
        fun e there => ?_, fun e there => ?_⟩
      · rw [List.nil_append, List.takeWhile_append_dropWhile]
      · rw [List.takeWhile_cons_of_pos (by rw [first]; rfl)]
        rfl
      · exact List.mem_takeWhile_imp (p := fun c => Numeral.isDigit c || c == '.') there
      · have stops := List.head?_dropWhile_not (fun c => Numeral.isDigit c || c == '.') (d :: name)
        rw [there] at stops
        exact stops
    · have later : c ∈ name := by
        rcases List.mem_cons.1 mem with rfl | later
        · exact absurd isDigit first
        · exact later
      obtain ⟨numeric, front, rest, rfl, before, others⟩ := ih later
      refine ⟨numeric, d :: front, rest, rfl, ?_, others⟩
      intro e there
      rcases List.mem_cons.1 there with rfl | there
      · exact Bool.not_eq_true _ ▸ first
      · exact before e there

/-- What is read off a name.  The text of the root is only told of in errors. -/
structure Reads (root : String) (name : List Char) (r : Except Fault Version) : Prop where
  /-- A name without a digit names no series. -/
  no_digit (none : ∀ c ∈ name, Numeral.isDigit c = false) : r = .error (.absent root)
  /-- With a dot among the digits, they are an explicit text. -/
  dotted {numeric : List Char} (row : IsNumeric name numeric) (dot : '.' ∈ numeric) :
    r = parse (String.ofList numeric)
  /-- One digit alone is the major number. -/
  single {digit : Char} (row : IsNumeric name [digit]) (no_dot : digit ≠ '.') :
    r = .ok ⟨UInt32.ofNat (Numeral.digitValue digit), none⟩
  /-- Of several digits, all but the first are the minor number. -/
  several {digit : Char} {more : List Char} (row : IsNumeric name (digit :: more))
      (no_dot : '.' ∉ digit :: more) (nonempty : more ≠ []) :
    (Numeral.valueOf more < UInt32.size →
      r = .ok ⟨UInt32.ofNat (Numeral.digitValue digit), some (UInt32.ofNat (Numeral.valueOf more))⟩) ∧
    (UInt32.size ≤ Numeral.valueOf more → r = .error (.absent root))

theorem reads_ofName (root : String) (name : List Char) : Reads root name (ofName root name) := by
  have undotted {numeric : List Char} (row : IsNumeric name numeric) (no_dot : '.' ∉ numeric) :
      ∀ c ∈ numeric, Numeral.isDigit c = true := by
    obtain ⟨-, -, -, -, -, digits, -⟩ := row
    intro c mem
    have either := digits c mem
    have other : c ≠ '.' := ne_of_mem_of_not_mem mem no_dot
    simpa [other] using either
  unfold ofName
  dsimp only
  refine ⟨fun none => ?_, fun row dot => ?_, fun {digit} row no_dot => ?_,
    fun {digit more} row no_dot nonempty => ?_⟩
  · rw [numericPart_of_no_digit none]
    rfl
  · rw [row.numericPart_eq, if_pos (List.contains_iff_mem.2 dot)]
  · have plain : ¬[digit].contains '.' = true := by simpa using no_dot.symm
    rw [row.numericPart_eq, if_neg plain]
  · have plain : ¬(digit :: more).contains '.' = true := fun dot => no_dot (List.contains_iff_mem.1 dot)
    have digits : ∀ c ∈ more, Numeral.isDigit c = true :=
      fun c mem => undotted row no_dot c (List.mem_cons_of_mem digit mem)
    rw [row.numericPart_eq, if_neg plain]
    cases more with
    | nil => exact absurd rfl nonempty
    | cons c more =>
      dsimp only
      rw [Numeral.word32?_of_digits nonempty digits]
      constructor
      · intro small
        rw [if_pos small]
      · intro large
        rw [if_neg (by omega)]

/-! ## Roots -/

/-- The last marker in the text of a root stands in front of a name. -/
def Names (root : Path) (name : List Char) : Prop :=
  ∃ front word rest, root.display.toList = front ++ word ++ name ++ rest ∧ IsMarker word ∧
    (∀ c ∈ name, isSeparator c = false) ∧ (∀ c ∈ rest.head?, isSeparator c = true) ∧
    ¬HasMarker (name ++ rest)

theorem takeWhile_name {name rest : List Char} (within : ∀ c ∈ name, isSeparator c = false)
    (behind : ∀ c ∈ rest.head?, isSeparator c = true) :
    ((name ++ rest).takeWhile fun c => !isSeparator c) = name := by
  rw [List.takeWhile_append_of_pos fun c mem => by rw [within c mem]; rfl]
  cases rest with
  | nil => simp
  | cons c rest =>
    have separator : isSeparator c = true := behind c rfl
    rw [List.takeWhile_cons_of_neg (by rw [separator]; decide), List.append_nil]

theorem ofRoot_of_names {root : Path} {name : List Char} (h : Names root name) :
    ofRoot root = ofName root.display name := by
  obtain ⟨front, word, rest, text, isMarker, within, behind, last⟩ := h
  have found : afterMarker? root.display.toList = some (name ++ rest) := by
    rw [text, List.append_assoc (front ++ word)]
    exact afterMarker?_of_last front isMarker last
  rw [ofRoot, ofRootText, found]
  dsimp only
  rw [takeWhile_name within behind]

theorem ofRoot_of_not_hasMarker {root : Path} (h : ¬HasMarker root.display.toList) :
    ofRoot root = .error (.absent root.display) := by
  rw [ofRoot, ofRootText, afterMarker?_eq_none_iff.2 h]

/-- The text of the root decides only what is said in an error. -/
theorem toOption_ofName (root other : String) (name : List Char) :
    (ofName root name).toOption = (ofName other name).toOption := by
  unfold ofName
  dsimp only
  split
  · rfl
  · split
    · rfl
    · rfl
    · split <;> rfl

/-- A root is never cut within a character.  It names a series by the name behind the
last marker in its text, and whatever else is in the text makes no difference. -/
theorem ofRoot_reads_name (root : Path) :
    (scan (Octets.ofText root.display) ≠ .broken ∧
      scan (Octets.ofText root.display) =
        match afterMarker? root.display.toList with
        | none => .absent
        | some rest => .behind (rest.flatMap encodeChar)) ∧
    (∀ fault, ofRoot root = .error fault →
      Host.targetOf (.ofRoot root none) = .error (.configuration (.version fault))) ∧
    (¬HasMarker root.display.toList → ofRoot root = .error (.absent root.display)) ∧
    ∀ name, Names root name →
      Reads root.display name (ofRoot root) ∧
      ((∃ c ∈ name, Numeral.isDigit c = true) → ∃! numeric, IsNumeric name numeric) ∧
      ∀ other, Names other name → (ofRoot other).toOption = (ofRoot root).toOption := by
  have cut := scan_eq root.display.toList
  refine ⟨⟨?_, cut⟩, fun fault failed => ?_, ofRoot_of_not_hasMarker, fun name names =>
    ⟨?_, fun digit => ?_, fun other names' => ?_⟩⟩
  · rw [Octets.ofText, cut]
    intro broken
    split at broken <;> cases broken
  · unfold Host.targetOf Installation.resolve Config.ofRoot
    dsimp only
    rw [failed]
    rfl
  · rw [ofRoot_of_names names]
    exact reads_ofName root.display name
  · obtain ⟨numeric, row⟩ := exists_isNumeric digit
    refine ⟨numeric, row, fun numeric' row' => ?_⟩
    rw [← row.numericPart_eq, row'.numericPart_eq]
  · rw [ofRoot_of_names names, ofRoot_of_names names']
    exact toOption_ofName other.display root.display name

/-- A root with a marker of each kind of letters, and a series behind the second one. -/
theorem series_of_mixed_root :
    let root := Path.ofText "/home/é/python3.7/PyThOn-3.12.4rc1/bin"
    let name := "-3.12.4rc1".toList
    Names root name ∧ IsNumeric name "3.12.4".toList ∧ ofRoot root = .ok ⟨3, some 12⟩ := by
  intro root name
  have names : Names root name := by
    refine ⟨"/home/é/python3.7/".toList, "PyThOn".toList, "/bin".toList, by decide +kernel,
      by decide, forall_mem_of_all (by decide), ?_, ?_⟩
    · rintro _ ⟨⟩
      decide
    · exact afterMarker?_eq_none_iff.1 (by decide)
  have row : IsNumeric name "3.12.4".toList := by
    refine ⟨"-".toList, "rc1".toList, by decide, forall_mem_of_all (by decide), ⟨'3', rfl, by decide⟩,
      forall_mem_of_all (by decide), ?_⟩
    rintro _ ⟨⟩
    decide
  obtain ⟨-, -, -, reads⟩ := ofRoot_reads_name root
  refine ⟨names, row, ?_⟩
  rw [(reads name names).1.dotted row (by decide)]
  decide +kernel

end EmbeddedPython.Version
