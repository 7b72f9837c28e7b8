import EmbeddedPython.HostType

/-!
# Types of the host as text

`HostType.ofText?` is the type that a text names: `()`, the name of a leaf,
`Option<…>` or `Vec<…>` around a type, or two or three types between
parentheses.  Spaces do not count.
-/

namespace EmbeddedPython.HostType

/-- The leaves by their names. -/
def leaves : List (String × HostType) :=
  [("bool", bool), ("i32", int32), ("i64", int64), ("f64", float), ("String", text),
    ("NaiveDateTime", dateTime), ("HostValue", cell)]

/-- A name in front of characters, and the rest. -/
def nameIn (cs : List Char) : List Char × List Char :=
  (cs.takeWhile Char.isAlphanum, cs.dropWhile Char.isAlphanum)

/-- The characters behind one that has to come first. -/
def expect? (c : Char) : List Char → Option (List Char)
  | d :: rest => if d = c then some rest else none
  | [] => none

mutual

/-- A type in front of characters, and the rest.  Every step takes a
character. -/
def typeIn? : Nat → List Char → Option (HostType × List Char)
  | 0, _ => none
  | steps + 1, cs =>
    match cs with
    | '(' :: ')' :: rest => some (unit, rest)
    | '(' :: rest => do
      let (ts, rest) ← typesIn? steps rest
      match ts with
      | [a, b] => return (pair a b, rest)
      | [a, b, c] => return (triple a b c, rest)
      | _ => none
    | cs =>
      let (name, rest) := nameIn cs
      match String.ofList name, rest with
      | "Vec", '<' :: 'u' :: '8' :: '>' :: rest => some (bytes, rest)
      | "Vec", '<' :: rest => do
        let (t, rest) ← typeIn? steps rest
        return (list t, ← expect? '>' rest)
      | "Option", '<' :: rest => do
        let (t, rest) ← typeIn? steps rest
        return (option t, ← expect? '>' rest)
      | name, rest => do return (← leaves.lookup name, rest)

/-- Types with commas between them, up to the closing parenthesis. -/
def typesIn? : Nat → List Char → Option (List HostType × List Char)
  | 0, _ => none
  | steps + 1, cs => do
    let (t, rest) ← typeIn? steps cs
    match rest with
    | ')' :: rest => return ([t], rest)
    | ',' :: rest => do
      let (ts, rest) ← typesIn? steps rest
      return (t :: ts, rest)
    | _ => none

end

/-- The type that a text names. -/
def ofText? (s : String) : Option HostType :=
  let cs := s.toList.filter (· != ' ')
  match typeIn? (2 * cs.length + 1) cs with
  | some (t, []) => some t
  | _ => none

end EmbeddedPython.HostType
