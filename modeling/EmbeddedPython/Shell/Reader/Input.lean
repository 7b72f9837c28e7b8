import EmbeddedPython.Shell.Script
import EmbeddedPython.Text.Numeral

/-!
# Input of the shell

`Reader.Input` is what is left of a script, and `Reading` is a step that reads
from it or refuses it.  A backslash in front of the end of a line joins the
lines; `Reading.peek` and `Reading.take` do not see such an end.

A document behind `<<` is read at the end of the line.  Up to there it is one
of the `pending` ones, and commands know it by its number.
-/

namespace EmbeddedPython.Shell.Reader

/-- A token of a script. -/
inductive Token where
  | word (w : Word)
  | keyword (name : String)
  | operator (name : String)
  /-- The beginning of a redirection. -/
  | redirection (stream : Nat) (operator : String)
  | newline
  /-- The end of the script. -/
  | finish
deriving Inhabited

/-- The text that stands for a token in a complaint. -/
def Token.shown : Token → String
  | .word _ => "word"
  | .keyword name | .operator name => "\x22" ++ name ++ "\x22"
  | .redirection _ _ => "redirection"
  | .newline => "newline"
  | .finish => "end of file"

/-- A token is this operator. -/
def Token.isOperator (t : Token) (name : String) : Bool :=
  match t with
  | .operator other => name == other
  | _ => false

/-- A token is this word of the language. -/
def Token.isKeyword (t : Token) (name : String) : Bool :=
  match t with
  | .keyword other => name == other
  | _ => false

/-- The words of the language. -/
def keywords : List String :=
  ["!", "case", "do", "done", "elif", "else", "esac", "fi", "for", "if", "in", "then", "until",
    "while", "\x7b", "\x7d"]

/-- A token as a word of the language, if it is one. -/
def Token.withKeywords (t : Token) : Token :=
  match t with
  | .word w =>
    match w.plain? with
    | some cs =>
      if keywords.contains (String.ofList cs) then .keyword (String.ofList cs) else t
    | none => t
  | t => t

/-- A token that a list of commands may end in front of. -/
def Token.endsList : Token → Bool
  | .finish => true
  | .operator name => [")", ";;"].contains name
  | .keyword name =>
    ["do", "done", "elif", "else", "esac", "fi", "then", "\x7d"].contains name
  | _ => false

/-- A document that is still to be read. -/
structure Pending where
  number : Nat
  /-- The line that ends it. -/
  marker : List Char
  /-- Every character of it stands for itself. -/
  verbatim : Bool
  /-- Tabs in front of its lines do not belong to it. -/
  indented : Bool
deriving Inhabited

/-- What is left of a script. -/
structure Input where
  rest : List Char
  line : Nat
  /-- A token that was read and given back. -/
  kept : Option Token
  pending : List Pending
  /-- The documents by their numbers. -/
  documents : List (Nat × Word)
  /-- The number of the next document. -/
  fresh : Nat
  /-- The texts that stand in for names of commands. -/
  abbreviations : List (String × List Char)
  /-- The names whose texts are being read, and how much is left behind each. -/
  underWay : List (String × Nat)
  /-- Where the next word may be an abbreviation as well: behind a text that
  ends in a blank, with so much left. -/
  goesOnAt : Option Nat
deriving Inhabited

/-- All of a script. -/
def Input.ofScript (script : List Char) (fresh : Nat) : Input :=
  ⟨script, 1, none, [], [], fresh, [], [], none⟩

/-- The text that stands in for a name, unless it is being read already. -/
def Input.abbreviated? (i : Input) (name : String) : Option (List Char) :=
  if i.underWay.any fun (other, left) => other == name && left ≤ i.rest.length then none
  else i.abbreviations.lookup name

/-- What is left when a name is replaced by the text that stands in for it. -/
def Input.expanded (i : Input) (name : String) (text : List Char) : Input :=
  let left := i.rest.length
  { i with
    rest := text ++ i.rest
    underWay := (name, left) :: i.underWay
    goesOnAt := if text.getLast?.any fun c => c == ' ' || c == '\t' then some left
      else i.goesOnAt }

/-- The next word may be an abbreviation, if it is still to be read. -/
def Input.goingOn (i : Input) : Input :=
  if i.kept.isSome then i else { i with goesOnAt := some i.rest.length }

/-- Why a script is refused, and on which line. -/
structure Refusal where
  line : Nat
  text : String
deriving Repr, DecidableEq

/-- A step of reading. -/
abbrev Reading := StateT Input (Except Refusal)

namespace Reading

/-- The end of reading with a complaint about the present line. -/
def refuse {α : Type} (text : String) : Reading α := do
  throw ⟨(← get).line, "Syntax error: " ++ text⟩

/-- The length of a complaint about a token. -/
def longest : Nat := 63

/-- The end of reading at a token that does not belong there. -/
def refuseToken {α : Type} (found : Token) (expected : Option Token := none) : Reading α :=
  let wanted := match expected with
    | some t => " (expecting " ++ t.shown ++ ")"
    | none => ""
  refuse (String.ofList ((found.shown ++ " unexpected" ++ wanted).toList.take longest))

/-! ## Characters -/

/-- The characters behind ends of lines that a backslash takes away, and the
number of these lines. -/
def joined : List Char → Nat → List Char × Nat
  | '\\' :: '\n' :: rest, count => joined rest (count + 1)
  | cs, count => (cs, count)

/-- Goes behind ends of lines that a backslash takes away. -/
def join : Reading Unit :=
  modify fun i =>
    let (rest, count) := joined i.rest 0
    { i with rest, line := i.line + count }

/-- The next character as it stands there. -/
def takeRaw : Reading (Option Char) :=
  modifyGet fun i =>
    match i.rest with
    | [] => (none, i)
    | c :: rest => (some c, { i with rest, line := if c = '\n' then i.line + 1 else i.line })

/-- The next character, which stays. -/
def peek : Reading (Option Char) := do
  join
  return (← get).rest.head?

/-- The next character. -/
def take : Reading (Option Char) := do
  join
  takeRaw

/-- Takes the next character if it is this one. -/
def takes (c : Char) : Reading Bool := do
  if (← peek) == some c then
    let _ ← takeRaw
    return true
  else return false

/-- The characters up to one, which is taken as well. -/
def upTo (last : Char) (complaint : String) : Reading (List Char) := do
  let i ← get
  let front := i.rest.takeWhile (· != last)
  let lines := (front.filter (· == '\n')).length
  match i.rest.drop front.length with
  | [] =>
    set { i with rest := [], line := i.line + lines }
    refuse complaint
  | _ :: rest =>
    set { i with rest, line := i.line + lines }
    return front

/-- The characters in front that belong to a class. -/
def takeWhile (belongs : Char → Bool) : Nat → Reading (List Char)
  | 0 => return []
  | steps + 1 => do
    match ← peek with
    | some c =>
      if belongs c then
        let _ ← takeRaw
        return c :: (← takeWhile belongs steps)
      else return []
    | none => return []

/-- Goes behind blanks, and behind a comment up to the end of its line. -/
def skipBlanks : Nat → Reading Unit
  | 0 => return
  | steps + 1 => do
    match ← peek with
    | some c =>
      if c = ' ' || c = '\t' then
        let _ ← takeRaw
        skipBlanks steps
      else if c = '#' then
        modify fun i => { i with rest := i.rest.dropWhile (· != '\n') }
    | none => return

/-! ## Tokens and documents -/

/-- Gives a token back. -/
def keep (t : Token) : Reading Unit :=
  modify fun i => { i with kept := some t }

/-- Reads something else in the middle, which begins on a line of its own. -/
def within {α : Type} (cs : List Char) (line : Nat) (r : Reading α) : Reading α := do
  let outer ← get
  set { outer with rest := cs, line, kept := none, pending := [] }
  let a ← r
  modify fun inner => { outer with documents := inner.documents, fresh := inner.fresh }
  return a

/-- Takes note of a document that the next lines hold. -/
def announce (marker : List Char) (verbatim indented : Bool) : Reading Nat :=
  modifyGet fun i =>
    (i.fresh, { i with
      pending := i.pending ++ [⟨i.fresh, marker, verbatim, indented⟩], fresh := i.fresh + 1 })

/-- A line ends in a backslash that takes its end away. -/
def isContinued (line : List Char) : Bool :=
  (line.reverse.takeWhile (· == '\\')).length % 2 == 1

/-- The lines of a document up to the one that ends it. -/
def documentLines (d : Pending) : Nat → Bool → Reading (List Char)
  | 0, _ => return []
  | steps + 1, continued => do
    let i ← get
    if i.rest.isEmpty then return []
    else
      let whole := i.rest.takeWhile (· != '\n')
      let rest := i.rest.drop whole.length
      let line := if d.indented && !continued then whole.dropWhile (· == '\t') else whole
      set { i with rest := rest.drop 1, line := i.line + (rest.take 1).length }
      if line == d.marker && !continued then return []
      else
        let more ← documentLines d steps (!d.verbatim && isContinued line)
        return line ++ rest.take 1 ++ more

/-- Keeps a document. -/
def keepDocument (number : Nat) (w : Word) : Reading Unit :=
  modify fun i => { i with documents := (number, w) :: i.documents }

end Reading

end EmbeddedPython.Shell.Reader
