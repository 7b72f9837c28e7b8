import EmbeddedPython.Text.Decomposition

/-!
# The normal form of identifiers

Two spellings of an identifier are the same if they agree in Unicode
normalization form KC.  `normalize` gives that form in three steps:

* `decompose` replaces each character by its compatibility decomposition,
* `sortMarks` puts the marks behind a character into the order of their
  combining classes,
* `compose` puts characters and marks together again where there is a single
  character for them.
-/

namespace EmbeddedPython.Text

/-! ## Hangul syllables -/

/-- The first syllable, and the first letters of the three kinds.  The third
letter may be missing, for which the number before its kind stands. -/
def firstSyllable : Nat := 0xAC00

@[inherit_doc firstSyllable]
def firstLead : Nat := 0x1100

@[inherit_doc firstSyllable]
def firstVowel : Nat := 0x1161

@[inherit_doc firstSyllable]
def beforeTail : Nat := 0x11A7

/-- How many letters of each kind there are, the missing tail included. -/
def leadCount : Nat := 19

@[inherit_doc leadCount]
def vowelCount : Nat := 21

@[inherit_doc leadCount]
def tailCount : Nat := 28

/-- The number of all syllables. -/
def syllableCount : Nat := leadCount * vowelCount * tailCount

/-- A syllable. -/
def isSyllable (n : Nat) : Bool :=
  firstSyllable ≤ n && n < firstSyllable + syllableCount

/-- The letters of a syllable. -/
def syllableLetters (n : Nat) : List Char :=
  let i := n - firstSyllable
  let lead := firstLead + i / (vowelCount * tailCount)
  let vowel := firstVowel + i % (vowelCount * tailCount) / tailCount
  let tail := i % tailCount
  [Char.ofNat lead, Char.ofNat vowel]
    ++ (if tail = 0 then [] else [Char.ofNat (beforeTail + tail)])

/-- The syllable of two letters, or of a syllable and its tail. -/
def composeSyllable? (a b : Nat) : Option Char :=
  if firstLead ≤ a && a < firstLead + leadCount && firstVowel ≤ b
      && b < firstVowel + vowelCount then
    some (Char.ofNat
      (firstSyllable + ((a - firstLead) * vowelCount + (b - firstVowel)) * tailCount))
  else if isSyllable a && (a - firstSyllable) % tailCount = 0 && beforeTail < b
      && b < beforeTail + tailCount then
    some (Char.ofNat (a + (b - beforeTail)))
  else none

/-! ## The three steps -/

/-- The decomposition of a character. -/
def decomposeChar (c : Char) : List Char :=
  if isSyllable c.toNat then syllableLetters c.toNat
  else
    match CodeTable.find? decompositionTable c.toNat with
    | none => [c]
    | some e =>
      match e.numbers with
      | [n] => [Char.ofNat (n + (c.toNat - e.first))]
      | ns => ns.map Char.ofNat

/-- Characters with each one decomposed. -/
def decompose (cs : List Char) : List Char :=
  cs.flatMap decomposeChar

/-- The combining class of a character. -/
def combiningClass (c : Char) : Nat :=
  match CodeTable.find? combiningTable c.toNat with
  | some e => e.numbers.headD 0
  | none => 0

/-- Characters in reverse with one more put behind them, but in front of marks
of higher classes. -/
def putMark (c : Char) : List Char → List Char
  | [] => [c]
  | d :: before =>
    if 0 < combiningClass c && combiningClass c < combiningClass d then d :: putMark c before
    else c :: d :: before

/-- Characters with the marks in order. -/
def sortMarks (cs : List Char) : List Char :=
  (cs.foldl (fun before c => putMark c before) []).reverse

/-- The character that two characters are composed into. -/
def composePair? (a b : Char) : Option Char :=
  match composeSyllable? a.toNat b.toNat with
  | some c => some c
  | none =>
    (compositionTable.find? fun e => e.numbers = [a.toNat, b.toNat]).map fun e =>
      Char.ofNat e.first

/-- The composition of a starter, of the marks behind it that did not compose,
and of further characters.  A mark is out of reach of the starter if the mark
before it is of the same class or of a higher one. -/
def composeFrom (starter : Char) (marks : List Char) : List Char → List Char
  | [] => starter :: marks
  | c :: rest =>
    let isNear := match marks.getLast? with
      | none => true
      | some mark => combiningClass mark < combiningClass c
    match if isNear then composePair? starter c else none with
    | some composed => composeFrom composed marks rest
    | none =>
      if combiningClass c = 0 then starter :: marks ++ composeFrom c [] rest
      else composeFrom starter (marks ++ [c]) rest

/-- Characters with starters and marks composed. -/
def compose : List Char → List Char
  | [] => []
  | c :: rest => if combiningClass c = 0 then composeFrom c [] rest else c :: compose rest

/-- The normal form of the characters of an identifier.  Characters among the
first 128 are in it already. -/
def normalize (cs : List Char) : List Char :=
  if cs.all fun c => c.toNat < 0x80 then cs else compose (sortMarks (decompose cs))

end EmbeddedPython.Text
