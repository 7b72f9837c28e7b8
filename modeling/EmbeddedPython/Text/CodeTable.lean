import EmbeddedPython.Text.Numeral

/-!
# Tables of code points

Properties of characters are given by tables in text form.  A table is a row
of words: `61-7A` for a range of code points, `61` for a single one, and
`FB01=66.69` for code points for which numbers are given.  All numbers are
hexadecimal.
-/

namespace EmbeddedPython.Text

/-- A word of a table: the code points from `first` to `last`, and the numbers
that are given for them. -/
structure CodeEntry where
  first : Nat
  last : Nat
  numbers : List Nat
deriving Repr, DecidableEq

namespace CodeTable

/-- The number that hexadecimal digits write. -/
def readNumber (digits : String) : Nat :=
  digits.toList.foldl (fun n c => n * 16 + (Numeral.hexValue? c).getD 0) 0

/-- The entry that a word writes. -/
def readEntry (word : String) : CodeEntry :=
  let (range, numbers) := match word.splitOn "=" with
    | [range, numbers] => (range, (numbers.splitOn ".").map readNumber)
    | _ => (word, [])
  match range.splitOn "-" with
  | [first, last] => ⟨readNumber first, readNumber last, numbers⟩
  | _ => ⟨readNumber range, readNumber range, numbers⟩

/-- The entries of a table. -/
def read (lines : List String) : List CodeEntry :=
  lines.flatMap fun line => (line.splitOn " ").map readEntry

/-- The entry that a code point is in. -/
def find? (table : List CodeEntry) (n : Nat) : Option CodeEntry :=
  table.find? fun e => e.first ≤ n && n ≤ e.last

end CodeTable

end EmbeddedPython.Text
