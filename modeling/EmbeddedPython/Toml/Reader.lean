import EmbeddedPython.Toml.Scalar
import EmbeddedPython.Toml.Value

/-!
# Reading TOML documents

`readDocument` reads a document line by line.  A line is blank, gives a
value to a key, or is the header of a table or of an element of an array of
tables.

Arrays and inline tables may be nested to a fixed depth, and a key may have
as many parts.  The depth that is left is what the recursion goes down on.
-/

namespace EmbeddedPython.Toml

/-- The deepest nesting of arrays and inline tables, and the most parts of
a key. -/
def nestingLimit : Nat := 80

/-! ## Between values -/

/-- The rest behind a comment, if there is one. -/
def readComment (cs : List Char) : Except Fault (List Char) :=
  match cs with
  | '#' :: rest =>
    let after := rest.dropWhile fun c => c != '\n' && c != '\r'
    let inside := rest.takeWhile fun c => c != '\n' && c != '\r'
    if inside.any isControl then .error (.here cs "invalid comment") else .ok after
  | _ => .ok cs

/-- The rest behind a line end, if there is one. -/
def lineEnd? : List Char → Option (List Char)
  | '\n' :: rest => some rest
  | '\r' :: '\n' :: rest => some rest
  | _ => none

/-- The rest behind blanks, comments and line ends.  Every step takes a
character, so as many steps as there are characters are enough. -/
def skipIdle : Nat → List Char → Except Fault (List Char)
  | 0, cs => .ok cs
  | steps + 1, cs => do
    let cs ← readComment (dropGap cs)
    match lineEnd? cs with
    | some rest => skipIdle steps rest
    | none => return cs

/-- The rest behind all that may stand between the items of an array. -/
def skip (cs : List Char) : Except Fault (List Char) :=
  skipIdle cs.length cs

/-- The rest behind the end of a line. -/
def finishLine (cs : List Char) : Except Fault (List Char) := do
  let cs ← readComment (dropGap cs)
  match cs, lineEnd? cs with
  | [], _ => return []
  | _, some rest => return rest
  | _, none => .error (.here cs "unexpected key or value, expected newline")

/-! ## Keys -/

/-- A character of a bare key. -/
def isBareKey (c : Char) : Bool :=
  c.isAlphanum || c == '_' || c == '-'

/-- One part of a key. -/
def readKeyPart (cs : List Char) : Except Fault (String × List Char) :=
  match cs with
  | '\x22' :: rest => readBasic rest
  | '\x27' :: rest => readLiteral rest
  | _ =>
    let name := cs.takeWhile isBareKey
    if name.isEmpty then .error (.here cs "invalid unquoted key")
    else .ok (String.ofList name, cs.drop name.length)

/-- The parts of a key behind its first one, as long as `parts` allows. -/
def readKeyTail : (parts : Nat) → List Char → Except Fault (List String × List Char)
  | parts, cs =>
    match dropGap cs with
    | '.' :: rest =>
      match parts with
      | 0 => .error (.here cs "recursion limit")
      | parts + 1 => do
        let (name, after) ← readKeyPart (dropGap rest)
        let (more, after) ← readKeyTail parts after
        return (name :: more, after)
    | after => .ok ([], after)

/-- A dotted key: the way to its table, its last part, and the rest behind
the blanks that follow. -/
def readKey (cs : List Char) : Except Fault (List String × String × List Char) := do
  let (first, after) ← readKeyPart cs
  let (more, after) ← readKeyTail (nestingLimit - 1) after
  let parts := first :: more
  return (parts.dropLast, parts.getLast?.getD first, after)

/-- The rest behind a character that has to come next. -/
def expect (c : Char) (message : String) (cs : List Char) : Except Fault (List Char) :=
  match cs with
  | d :: rest => if d = c then .ok rest else .error (.here cs message)
  | [] => .error (.here cs message)

/-! ## Values -/

/-- How a value is read. -/
abbrev ValueReader := List Char → Except Fault (Value × List Char)

/-- The items of an array up to its bracket, each read by `value`. -/
def readItems (value : ValueReader) : Nat → List Char → Except Fault (List Value × List Char)
  | 0, cs => .error (.here cs "unclosed array, expected `]`")
  | steps + 1, cs => do
    match ← skip cs with
    | ']' :: rest => return ([], rest)
    | cs =>
      let (item, after) ← value cs
      match ← skip after with
      | ',' :: rest =>
        let (items, after) ← readItems value steps rest
        return (item :: items, after)
      | ']' :: rest => return ([item], rest)
      | after => .error (.here after "missing comma between array elements, expected `,`")

/-- The entries of an inline table up to its brace, behind those read so
far. -/
def readPairs (value : ValueReader) :
    Nat → Entries → List Char → Except Fault (Entries × List Char)
  | 0, _, cs => .error (.here cs "unclosed inline table, expected `\x7d`")
  | steps + 1, entries, cs => do
    match ← skip cs with
    | '\x7d' :: rest => return (entries, rest)
    | cs =>
      let (path, name, after) ← readKey cs
      let after ← expect '=' "key with no value, expected `=`" (← skip after)
      let (v, after) ← value (← skip after)
      match entries.insertValue path name v with
      | none => .error (.here cs "duplicate key")
      | some entries =>
        match ← skip after with
        | ',' :: rest => readPairs value steps entries rest
        | '\x7d' :: rest => return (entries, rest)
        | after =>
          .error (.here after "missing comma between key-value pairs, expected `,`")

/-- A value with `depth` levels of nesting left. -/
def readValue : (depth : Nat) → ValueReader
  | depth, cs =>
    match cs with
    | '[' :: rest =>
      match depth with
      | 0 => .error (.here cs "cannot recurse further; max recursion depth met")
      | depth + 1 => do
        let (items, after) ← readItems (readValue depth) cs.length rest
        return (.array items, after)
    | '\x7b' :: rest =>
      match depth with
      | 0 => .error (.here cs "cannot recurse further; max recursion depth met")
      | depth + 1 => do
        let (entries, after) ← readPairs (readValue depth) cs.length [] rest
        return (.table .inline entries, after)
    | _ => readScalar cs

/-! ## Lines -/

/-- A document as far as it was read. -/
structure Progress where
  entries : Entries
  /-- The header of the table that keys go into. -/
  header : List String

/-- A document after a header. -/
def readHeader (p : Progress) (cs : List Char) : Except Fault (Progress × List Char) :=
  match cs with
  | '[' :: '[' :: rest => do
    let (path, name, after) ← readKey (dropGap rest)
    let after ← expect ']' "unclosed array table, expected `]`" after
    let after ← expect ']' "unclosed array table, expected `]`" after
    match p.entries.insertElement path name with
    | none => .error (.here cs "duplicate key")
    | some entries => return (⟨entries, path ++ [name]⟩, after)
  | _ => do
    let (path, name, after) ← readKey (dropGap (cs.drop 1))
    let after ← expect ']' "unclosed table, expected `]`" after
    match p.entries.insertTable path name with
    | none => .error (.here cs "duplicate key")
    | some entries => return (⟨entries, path ++ [name]⟩, after)

/-- A document after a key with its value. -/
def readPair (p : Progress) (cs : List Char) : Except Fault (Progress × List Char) := do
  let (path, name, after) ← readKey cs
  let after ← expect '=' "key with no value, expected `=`" after
  let (v, after) ← readValue nestingLimit (dropGap after)
  match Entries.atHeader (fun es => es.insertValue path name v) p.header p.entries with
  | none => .error (.here cs "duplicate key")
  | some entries => return ({ p with entries }, after)

/-- The document that lines complete. -/
def readLines : Nat → Progress → List Char → Except Fault Entries
  | 0, p, _ => .ok p.entries
  | steps + 1, p, cs => do
    match ← skip cs with
    | [] => return p.entries
    | c :: rest =>
      let line := c :: rest
      let (p, after) ← if c = '[' then readHeader p line else readPair p line
      readLines steps p (← finishLine after)

/-- The characters behind a mark of byte order. -/
def dropMark : List Char → List Char
  | '\ufeff' :: rest => rest
  | cs => cs

/-- The document that a text holds. -/
def readDocument (cs : List Char) : Except Fault Entries :=
  let cs := dropMark cs
  readLines (cs.length + 1) ⟨[], []⟩ cs

end EmbeddedPython.Toml
