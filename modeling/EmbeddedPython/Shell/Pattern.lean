/-!
# Patterns of the shell

A `Pattern` is read off characters some of which are quoted: an asterisk fits
any characters, a question mark one, and brackets one out of a set.  Quoted
characters stand for themselves, as do one behind a backslash and a bracket that
is not closed.

* `Pattern.fits` says whether a text as a whole fits a pattern.
* `Pattern.without` takes away the part of a text that does.
-/

namespace EmbeddedPython.Shell

/-- A character, and whether it is quoted. -/
abbrev Marked := Char × Bool

namespace Pattern

/-- A part of a set between brackets. -/
inductive Member where
  | range (first last : Char)
  /-- A class of characters by its name. -/
  | kind (name : String)
deriving Repr, DecidableEq

/-- A part of a pattern. -/
inductive Part where
  | exactly (c : Char)
  | one
  | many
  | set (negated : Bool) (members : List Member)
deriving Repr, DecidableEq

/-- A character that belongs to a class. -/
def inKind (name : String) (c : Char) : Bool :=
  match name with
  | "alpha" => c.isAlpha
  | "digit" => c.isDigit
  | "alnum" => c.isAlphanum
  | "upper" => c.isUpper
  | "lower" => c.isLower
  | "space" => c == ' ' || (9 ≤ c.toNat && c.toNat ≤ 13)
  | "blank" => c == ' ' || c == '\t'
  | "punct" => 0x20 < c.toNat && c.toNat < 0x7F && !c.isAlphanum
  | "xdigit" => c.isDigit || ('a' ≤ c && c ≤ 'f') || ('A' ≤ c && c ≤ 'F')
  | "cntrl" => c.toNat < 0x20 || c.toNat = 0x7F
  | "graph" => 0x20 < c.toNat && c.toNat < 0x7F
  | "print" => 0x20 ≤ c.toNat && c.toNat < 0x7F
  | _ => false

/-- A character that belongs to a part of a set. -/
def Member.has (c : Char) : Member → Bool
  | .range first last => first ≤ c && c ≤ last
  | .kind name => inKind name c

/-- A character that a part of a pattern fits. -/
def Part.accepts (c : Char) : Part → Bool
  | .exactly d => c == d
  | .one | .many => true
  | .set negated members => members.any (Member.has c) != negated

/-- The name of a class in front of characters, and the rest. -/
def kindName? (cs : List Marked) : Option (String × List Marked) :=
  match cs with
  | ('[', false) :: (':', false) :: rest =>
    let name := (rest.takeWhile fun c => c.1.isAlpha).map Prod.fst
    match rest.drop name.length with
    | (':', false) :: (']', false) :: after => some (String.ofList name, after)
    | _ => none
  | _ => none

/-- The members of a set up to the bracket that closes it, and the rest.  Every
step takes a character. -/
def members? : Nat → Bool → List Marked → Option (List Member × List Marked)
  | 0, _, _ => none
  | steps + 1, first, cs =>
    match kindName? cs with
    | some (name, after) =>
      (members? steps false after).map fun (more, rest) => (.kind name :: more, rest)
    | none =>
      match cs with
      | [] => none
      | (c, quoted) :: rest =>
        if c = ']' && !quoted && !first then some ([], rest)
        else
          match rest with
          | ('-', false) :: (d, closing) :: after =>
            if d = ']' && !closing then
              (members? steps false rest).map fun (more, rest) => (.range c c :: more, rest)
            else
              (members? steps false after).map fun (more, rest) => (.range c d :: more, rest)
          | rest => (members? steps false rest).map fun (more, rest) => (.range c c :: more, rest)

/-- The set behind an opening bracket, and the rest. -/
def set? (cs : List Marked) : Option (Part × List Marked) :=
  match cs with
  | ('!', false) :: rest =>
    (members? (rest.length + 1) true rest).map fun (members, rest) => (.set true members, rest)
  | rest =>
    (members? (rest.length + 1) true rest).map fun (members, rest) => (.set false members, rest)

/-- The parts of characters.  Every step takes one of them. -/
def partsIn : Nat → List Marked → List Part
  | 0, _ => []
  | _, [] => []
  | steps + 1, (c, quoted) :: rest =>
    if quoted then .exactly c :: partsIn steps rest
    else if c = '\\' then
      match rest with
      | (d, _) :: rest => .exactly d :: partsIn steps rest
      | [] => [.exactly c]
    else if c = '*' then .many :: partsIn steps rest
    else if c = '?' then .one :: partsIn steps rest
    else if c = '[' then
      match set? rest with
      | some (part, rest) => part :: partsIn steps rest
      | none => .exactly c :: partsIn steps rest
    else .exactly c :: partsIn steps rest

end Pattern

/-- A pattern. -/
abbrev Pattern := List Pattern.Part

namespace Pattern

/-- The pattern of characters. -/
def ofMarked (cs : List Marked) : Pattern :=
  partsIn cs.length cs

/-- Characters that are no mere text. -/
def isActive (cs : List Marked) : Bool :=
  cs.any fun (c, quoted) => !quoted && ['*', '?', '['].contains c

/-- The ends of a text, the longest first. -/
def tails : List Char → List (List Char)
  | [] => [[]]
  | c :: rest => (c :: rest) :: tails rest

/-- A text fits a pattern as a whole. -/
def fits : Pattern → List Char → Bool
  | [], cs => cs.isEmpty
  | .many :: rest, cs => (tails cs).any (fits rest)
  | _ :: _, [] => false
  | part :: rest, c :: cs => part.accepts c && fits rest cs

end Pattern

end EmbeddedPython.Shell
