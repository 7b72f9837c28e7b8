import EmbeddedPython.Shell.Pattern
import EmbeddedPython.Shell.Sum

/-!
# Expansion of words

A word becomes a row of items: its characters, each with what may still happen
to it, and marks where a field begins or ends in any case.  From the items the
shell makes fields (`Expand.fieldsOf`), one text (`Expand.textOf`) or a pattern
(`Expand.patternOf`).

What a command substitution gives is a parameter of all of this.
-/

namespace EmbeddedPython.Shell

/-- An item of a word that was expanded. -/
inductive Item where
  /-- A character.  One that is not quoted may belong to a pattern, and one that
  `splits` may end a field. -/
  | char (c : Char) (quoted splits : Bool)
  /-- A place with quotes, which make a field even of nothing. -/
  | quotes
  /-- The end of an argument in front of the next one. -/
  | boundary
deriving Repr, DecidableEq

namespace Expand

/-- The items of characters of the script. -/
def ofScript (quoted : Bool) (cs : List Char) : List Item :=
  cs.map fun c => .char c quoted false

/-- The items of a value. -/
def ofValue (quoted : Bool) (cs : List Char) : List Item :=
  cs.map fun c => .char c quoted (!quoted)

/-- Items among which any character that is not quoted may end a field. -/
def loosened (items : List Item) : List Item :=
  items.map fun
    | .char c quoted _ => .char c quoted (!quoted)
    | item => item

/-- The characters that end fields. -/
def separators : Act (List Char) := do
  return (← Act.value? "IFS").getD [' ', '\t', '\n']

/-- The character between arguments that become one text. -/
def joint : Act (List Char) := do
  return (← separators).take 1

/-- The characters of items. -/
def charsIn (joint : List Char) (items : List Item) : List Char :=
  items.flatMap fun
    | .char c _ _ => [c]
    | .quotes => []
    | .boundary => joint

/-! ## Parameters -/

/-- The value of a parameter other than all arguments, if it is set. -/
def parameter? (name : String) : Act (Option (List Char)) := do
  let p ← Act.process
  match name with
  | "$" => return some p.number
  | "?" => return some (Numeral.decimal p.status)
  | "#" => return some (Numeral.decimal p.arguments.length)
  | "0" => return some p.name
  | "-" => return some (Act.optionLetters.reverse.filter p.options.contains)
  | "!" => return if p.lastJob.isEmpty then none else some p.lastJob
  | name =>
    match Numeral.value? name.toList with
    | some n => return p.arguments[n - 1]?
    | none => Act.value? name

/-- A name that stands for all arguments. -/
def isAll (name : String) : Bool :=
  name == "@" || name == "*"

/-- The items of all arguments. -/
def allArguments (name : String) (quoted : Bool) : Act (List Item) := do
  let arguments := (← Act.process).arguments
  if quoted && name == "*" then
    return .quotes :: ofValue true ((← joint).intercalate arguments)
  else if quoted then
    return [Item.boundary].intercalate (arguments.map fun a => .quotes :: ofValue true a)
  else
    return [Item.boundary].intercalate (arguments.map (ofValue false))

/-- The items of a parameter, if it is set. -/
def items? (name : String) (quoted : Bool) : Act (Option (List Item)) := do
  if isAll name then return some (← allArguments name quoted)
  else return (← parameter? name).map (ofValue quoted)

/-- Sets a variable of the script. -/
def assign (name : String) (cs : List Char) : Act Unit := do
  let old ← Act.variableNamed? name
  if old.any Variable.fixed then Act.refuse (name ++ ": is read only")
  let exported := old.any Variable.exported || (← Act.hasOption 'a')
  Act.putVariable name ⟨some cs, exported, false⟩
  if name = "OPTIND" then Act.changeProcess fun p => { p with optionsSeen := 0 }

/-- The end at a parameter that is not set, unless nobody cares. -/
def refuseUnset (name : String) : Act Unit := do
  if (← Act.hasOption 'u') && !isAll name then Act.refuse (name ++ ": parameter not set")

/-- The pattern of items. -/
def patternOf (items : List Item) : Pattern :=
  Pattern.ofMarked (items.filterMap fun
    | .char c quoted _ => some (c, quoted)
    | .quotes | .boundary => none)

/-- An item that begins another argument. -/
def isBoundary : Item → Bool
  | .boundary => true
  | .char _ _ _ | .quotes => false

/-- The characters up to the end of an argument. -/
def untilBoundary (items : List Item) : List Char :=
  charsIn [] (items.takeWhile fun i => !isBoundary i)

/-- Items without the part that a pattern fits.  A pattern fits no more than one
argument, and the shorter front and the longer back begin in the first one. -/
def removed (r : Removal) (p : Pattern) (items : List Item) : List Item :=
  let near := List.range ((items.takeWhile fun i => !isBoundary i).length + 1)
  let far := (List.range (items.length + 1)).reverse
  let fitsFront (n : Nat) : Bool := p.fits (untilBoundary (items.take n))
  let fitsBack (n : Nat) : Bool := p.fits (untilBoundary (items.drop n))
  let front (lengths : List Nat) : List Item := items.drop ((lengths.find? fitsFront).getD 0)
  let back (lengths : List Nat) : List Item :=
    items.take ((lengths.find? fitsBack).getD items.length)
  match r with
  | .shortestFront => front near
  | .longestFront => front far
  | .shortestBack => back far
  | .longestBack => back near

/-! ## Words -/

/-- The output of a substitution as it goes into a word. -/
def outputItems (quoted : Bool) (output : List Char) : List Item :=
  let kept := (output.reverse.dropWhile (· == '\n')).reverse.filter (· != '\x00')
  ofValue quoted kept

mutual

/-- The items of a word. -/
def word (sub : Command → Act (List Char)) (quoted : Bool) : List Piece → Act (List Item)
  | [] => return []
  | first :: rest => do
    let front ← piece sub quoted first
    return front ++ (← word sub quoted rest)

/-- The items of a piece of a word. -/
def piece (sub : Command → Act (List Char)) (quoted : Bool) : Piece → Act (List Item)
  | .text cs => return ofScript quoted cs
  | .quoted cs => return .quotes :: ofScript true cs
  | .quotes pieces => do
    match pieces with
    | [.parameter "@" .value] => allArguments "@" true
    | pieces => return .quotes :: (← word sub true pieces)
  | .parameter name f => form sub quoted name f
  | .output c => return outputItems quoted (← sub c)
  | .sum pieces => do
    let text := charsIn [' '] (← word sub true pieces)
    return ofValue quoted (Numeral.signed (← Sum.valueOf text).toInt).toList

/-- The items of an expansion of a parameter. -/
def form (sub : Command → Act (List Char)) (quoted : Bool) (name : String) :
    Form → Act (List Item)
  | .value => do
    match ← items? name quoted with
    | some items => return items
    | none =>
      refuseUnset name
      return []
  | .length => do
    if isAll name then
      return ofValue quoted (Numeral.decimal
        ((← joint).intercalate (← Act.process).arguments).length)
    else
      match ← parameter? name with
      | some cs => return ofValue quoted (Numeral.decimal cs.length)
      | none =>
        refuseUnset name
        return ofValue quoted ['0']
  | .unless s orEmpty w => do
    let found ← items? name quoted
    let present := match found with
      | some items => !(orEmpty && (charsIn [' '] items).isEmpty)
      | none => false
    match s with
    | .alternative => if present then return loosened (← word sub quoted w) else return []
    | .fallback =>
      if present then return found.getD [] else return loosened (← word sub quoted w)
    | .assigned =>
      if present then return found.getD []
      else
        let value := charsIn (← joint) (← word sub false w)
        if !Reader.isName name.toList then Act.refuse (name ++ ": bad variable name")
        assign name value
        return ofValue quoted value
    | .complaint =>
      if present then return found.getD []
      else
        let text := charsIn (← joint) (← word sub false w)
        let shown := if w.isEmpty then
            "parameter not set" ++ (if orEmpty then " or null" else "")
          else String.ofList text
        Act.refuse (name ++ ": " ++ shown)
  | .without r w => do
    match ← items? name quoted with
    | some items =>
      let p := patternOf (← word sub false w)
      return removed r p items
    | none =>
      refuseUnset name
      return []
  | .unknown => Act.refuse "Bad substitution"

end

/-! ## Home directories -/

/-- The user that a tilde in front names, and what is behind it. -/
def behindTilde? (ends : Char → Bool) : Word → Option (List Char × Word)
  | .text ('~' :: cs) :: rest =>
    let user := cs.takeWhile fun c => !ends c
    let after := cs.drop user.length
    if after.isEmpty && !rest.isEmpty then none
    else some (user, if after.isEmpty then rest else .text after :: rest)
  | _ => none

/-- The home directory of a user. -/
def home? (user : List Char) : Act (Option (List Char)) := do
  if user.isEmpty then Act.value? "HOME"
  else return if user = "root".toList then some "/root".toList else none

/-- A word with a home directory in place of a tilde in front. -/
def withHome (ends : Char → Bool) (w : Word) : Act Word := do
  match behindTilde? ends w with
  | some (user, rest) =>
    match ← home? user with
    | some home => return .quoted home :: rest
    | none => return w
  | none => return w

/-! ## Fields -/

/-- How far the cutting of a word has come. -/
inductive Cut where
  /-- At the beginning of a field that is not there yet. -/
  | fresh
  | within
  /-- Behind a field that a blank ended. -/
  | afterBlank
deriving Repr, DecidableEq

/-- The fields of items.  A blank among the separators ends a field that is
there; any other separator ends one in any case. -/
def split (separators : List Char) : Cut → List Marked → List Item → List (List Marked)
  | cut, field, [] => if cut = .within then [field.reverse] else []
  | cut, field, item :: rest =>
    match item with
    | .quotes => split separators .within field rest
    | .boundary =>
      if cut = .within then field.reverse :: split separators .fresh [] rest
      else split separators .fresh [] rest
    | .char c quoted splits =>
      if splits && separators.contains c then
        if c = ' ' || c = '\t' || c = '\n' then
          if cut = .within then field.reverse :: split separators .afterBlank [] rest
          else split separators cut [] rest
        else if cut = .afterBlank then split separators .fresh [] rest
        else field.reverse :: split separators .fresh [] rest
      else split separators .within ((c, quoted) :: field) rest

/-! ## Names of files -/

/-- The stretches of characters between slashes. -/
def segmentsOf : List Marked → List (List Marked)
  | [] => [[]]
  | c :: rest =>
    match segmentsOf rest with
    | [] => [[c]]
    | first :: more => if c.1 = '/' then [] :: first :: more else (c :: first) :: more

/-- The characters, whether quoted or not. -/
def plainOf (cs : List Marked) : List Char :=
  cs.map Prod.fst

/-- Names in their order. -/
def sorted (names : List (List Char)) : List (List Char) :=
  names.mergeSort fun a b => !(b < a)

/-- The names in the directory of a path that fit a pattern. -/
def namesIn (files : FileSystem) (directory : List Char) (segment : List Marked) :
    List (List Char) :=
  let path := if directory.isEmpty then "." else String.ofList directory
  match files.locate (pathOf path.toList) with
  | .ok place =>
    let p := Pattern.ofMarked segment
    let showsHidden := p.head? == some (.exactly '.')
    let names := ([Path.dot] :: [Path.dot, Path.dot] :: files.names place).map charsOf
    sorted (names.filter fun name => p.fits name && (showsHidden || name.head? != some '.'))
  | .error _ => []

/-- The paths that fit segments, behind the part that is found already. -/
def pathsFrom (files : FileSystem) (front : List Char) :
    List (List Marked) → List (List Char)
  | [] => []
  | [last] =>
    if Pattern.isActive last then (namesIn files front last).map (front ++ ·)
    else
      let path := front ++ plainOf last
      if files.exists? (pathOf path) then [path] else []
  | segment :: rest =>
    if Pattern.isActive segment then
      (namesIn files front segment).flatMap fun name =>
        let directory := front ++ name
        if files.isDirectory (pathOf directory) then
          pathsFrom files (directory ++ ['/']) rest
        else []
    else pathsFrom files (front ++ plainOf segment ++ ['/']) rest

/-- The arguments that a field stands for: the paths that fit it, or else the
field itself. -/
def argumentsOf (field : List Marked) : Act (List (List Char)) := do
  if !Pattern.isActive field || (← Act.hasOption 'f') then return [plainOf field]
  else
    match pathsFrom (← Act.files) [] (segmentsOf field) with
    | [] => return [plainOf field]
    | paths => return paths

/-! ## What words become -/

/-- The arguments that a word stands for. -/
def fieldsOf (sub : Command → Act (List Char)) (w : Word) : Act (List (List Char)) := do
  let items ← word sub false (← withHome (· == '/') w)
  let fields := split (← separators) .fresh [] items
  return (← fields.mapM argumentsOf).flatten

/-- The arguments that words stand for. -/
def fieldsOfAll (sub : Command → Act (List Char)) (words : List Word) :
    Act (List (List Char)) := do
  return (← words.mapM (fieldsOf sub)).flatten

/-- The text that a word stands for where it is one text. -/
def textOf (sub : Command → Act (List Char)) (w : Word) : Act (List Char) := do
  let items ← word sub false (← withHome (· == '/') w)
  return charsIn (← joint) items

/-- The text of the value in a setting, in which a tilde may also follow a
colon. -/
def valueTextOf (sub : Command → Act (List Char)) (w : Word) : Act (List Char) := do
  let items ← word sub false (← colons (← withHome (fun c => c == '/' || c == ':') w))
  return charsIn (← joint) items
where
  /-- A word with home directories in place of tildes behind colons. -/
  colons : Word → Act Word
    | [] => return []
    | .text cs :: rest => do
      let parts := colonParts cs
      let rest ← colons rest
      match parts with
      | [] => return rest
      | first :: more =>
        let more ← more.mapM fun part => do
          return .text [':'] :: (← withHome (fun c => c == '/' || c == ':') [.text part])
        return .text first :: more.flatten ++ rest
    | p :: rest => do return p :: (← colons rest)
  /-- The stretches between colons. -/
  colonParts : List Char → List (List Char)
    | [] => [[]]
    | c :: rest =>
      match colonParts rest with
      | [] => [[c]]
      | first :: more => if c = ':' then [] :: first :: more else (c :: first) :: more

end Expand

end EmbeddedPython.Shell
