import EmbeddedPython.Shell.Run

/-!
# Commands of the shell

The commands that the shell carries out itself, since they change the shell.  A
mistake in one of the special ones is the end of the script, and the settings in
front of one stay.
-/

namespace EmbeddedPython.Shell

/-- A command of the shell. -/
abbrev Builtin := Runner → (tested : Bool) → Tool

namespace Builtin

/-- The number that an argument is. -/
def number (arg : List Char) : Act Nat := do
  match Sum.integer? false arg with
  | some n =>
    if n < 0 || 2147483647 < n.toInt then
      Act.refuse ("Illegal number: " ++ String.ofList arg)
    else return n.toNatClampNeg
  | none => Act.refuse ("Illegal number: " ++ String.ofList arg)

/-- The letters of the options in front of arguments.  Others than the known ones
are a mistake. -/
def options (known : List Char) : List (List Char) → Act (List Char × List (List Char))
  | ['-', '-'] :: rest => return ([], rest)
  | ('-' :: letter :: letters) :: rest => do
    for l in letter :: letters do
      if !known.contains l then Act.refuse ("Illegal option -" ++ l.toString)
    let (more, rest) ← options known rest
    return (letter :: letters ++ more, rest)
  | args => return ([], args)

/-- A value as the shell quotes it: stretches of single quotes stand between
double ones.  Every step takes a stretch. -/
def quotedIn : Nat → List Char → List Char
  | 0, _ => []
  | steps + 1, cs =>
    let front := cs.takeWhile (· != '\x27')
    let quotes := (cs.drop front.length).takeWhile (· == '\x27')
    let rest := cs.drop (front.length + quotes.length)
    let marked := if quotes.isEmpty then [] else ['\x22'] ++ quotes ++ ['\x22']
    Tools.inQuotes front ++ marked ++ (if rest.isEmpty then [] else quotedIn steps rest)

/-- A value as the shell quotes it. -/
def quoted (cs : List Char) : List Char :=
  quotedIn (cs.length + 1) cs

/-! ## Leaving -/

/-- Leaves loops, or goes on with the next round. -/
def leaveLoops (stop : Nat → Stop) : Builtin := fun _ _ _ args => do
  let count ← match args with
    | [] => pure 1
    | arg :: _ => do
      let n ← number arg
      if n = 0 then Act.refuse ("Illegal number: " ++ String.ofList arg)
      pure n
  let count := min count (← Act.process).loops
  if 0 < count then
    Act.setStatus 0
    throw (stop count)
  else return 0

/-- Ends the shell. -/
def exit : Builtin := fun _ _ _ args => do
  let p ← Act.process
  match args with
  | [] => throw (.leave (p.statusBefore.getD p.status))
  | arg :: _ => throw (.leave ((← number arg) % 256))

/-- Ends a function. -/
def goBack : Builtin := fun _ _ _ args => do
  match args with
  | [] => throw (.goBack (← Act.process).status)
  | arg :: _ => throw (.goBack (← number arg))

/-! ## Texts -/

/-- Carries out the arguments as commands. -/
def eval : Builtin := fun run tested _ args =>
  Run.text run tested (Tools.spaced args)

/-- The path of a file of commands. -/
def sourcePath (name : List Char) : Act (List Char) := do
  if name.contains '/' then return name
  else
    let files ← Act.files
    match (← Run.candidates name).find? fun path => files.isFile (pathOf path) with
    | some path => return path
    | none => Act.refuse (String.ofList name ++ ": not found")

/-- Carries out a file of commands. -/
def dot : Builtin := fun run _ _ args => do
  let (_, args) ← options [] args
  match args with
  | [] => return 0
  | name :: _ =>
    let path ← sourcePath name
    match ← Tools.contentOf path with
    | .error fault =>
      Act.refuse ("cannot open " ++ String.ofList path ++ ": " ++ Redirect.reason .reading fault)
    | .ok content =>
      let command := (← Act.process).command
      Act.changeProcess fun p => { p with command := path }
      let result ← Act.outcome (Run.script run content)
      Act.changeProcess fun p => { p with command }
      match result with
      | .error (.goBack status) => return status
      | result => Act.ofOutcome result

/-! ## Arguments and options -/

/-- The variables in the order of their names. -/
def sortedVariables : Act (List (String × Variable)) := do
  return (← Act.process).bindings.mergeSort fun a b => !(b.1 < a.1)

/-- Writes variables behind a word. -/
def showVariables (word : String) (vs : List (String × Variable)) : Act Nat :=
  Tools.printing (vs.flatMap fun (name, v) =>
    let front := if word.isEmpty then [] else word.toList ++ [' ']
    let value := match v.value with
      | some value => '=' :: quoted value
      | none => []
    front ++ name.toList ++ value ++ ['\n'])

/-- Writes the options, as a table or as commands. -/
def showOptions (asCommands : Bool) : Act Nat := do
  let options := (← Act.process).options
  let isOn (letter : Option Char) : Bool := letter.any options.contains
  let line (entry : String × Option Char) : List Char :=
    if asCommands then
      ("set " ++ (if isOn entry.2 then "-" else "+") ++ "o " ++ entry.1 ++ "\n").toList
    else
      entry.1.toList ++ List.replicate (16 - entry.1.length) ' '
        ++ (if isOn entry.2 then "on\n" else "off\n").toList
  Tools.printing
    ((if asCommands then [] else "Current option settings\n".toList)
      ++ Run.optionNames.flatMap line)

/-- Replaces the arguments. -/
def setArguments (args : List (List Char)) : Act Unit :=
  Act.changeProcess fun p => { p with arguments := args, optionsSeen := 0 }

/-- Sets options and arguments.  Every step takes an argument. -/
def setFrom : Nat → List (List Char) → Act Nat
  | 0, _ => return 0
  | _, [] => return 0
  | steps + 1, arg :: rest => do
    match arg with
    | ['-', '-'] =>
      setArguments rest
      return 0
    | ['-'] =>
      Run.setOption false 'x'
      Run.setOption false 'v'
      if !rest.isEmpty then setArguments rest
      return 0
    | [sign, 'o'] =>
      if sign != '-' && sign != '+' then
        setArguments (arg :: rest)
        return 0
      else
        match rest with
        | [] => showOptions (sign = '+')
        | name :: rest =>
          Run.setNamedOption (sign = '-') name
          setFrom steps rest
    | sign :: letters =>
      if (sign = '-' || sign = '+') && !letters.isEmpty then
        for l in letters do
          if Act.optionLetters.contains l then Run.setOption (sign = '-') l
          else Act.refuse ("Illegal option " ++ sign.toString ++ l.toString)
        setFrom steps rest
      else
        setArguments (arg :: rest)
        return 0
    | [] =>
      setArguments (arg :: rest)
      return 0

/-- Sets options and arguments, or writes the variables. -/
def set : Builtin := fun _ _ _ args => do
  if args.isEmpty then
    showVariables "" ((← sortedVariables).filter fun v => v.2.value.isSome)
  else setFrom (args.length + 1) args

/-- Takes arguments off the front. -/
def shift : Builtin := fun _ _ _ args => do
  let count ← match args with
    | [] => pure 1
    | arg :: _ => number arg
  let p ← Act.process
  if p.arguments.length < count then Act.refuse "can't shift that many"
  setArguments (p.arguments.drop count)
  return 0

/-! ## Variables -/

/-- The name in front of an equals sign, and the value behind it. -/
def cutSetting (arg : List Char) : String × Option (List Char) :=
  let name := arg.takeWhile (· != '=')
  (String.ofList name,
    if name.length = arg.length then none else some (arg.drop (name.length + 1)))

/-- The end at something that is no name. -/
def refuseBadName (name : String) : Act Unit :=
  if Reader.isName name.toList then return
  else Act.refuse (name ++ ": bad variable name")

/-- Sets variables or declares them, and changes what is known of them. -/
def declare (word : String) (isListed : Variable → Bool) (change : Variable → Variable) :
    Builtin := fun _ _ _ args => do
  let (letters, args) ← options ['p'] args
  if args.isEmpty || !letters.isEmpty then
    showVariables word ((← sortedVariables).filter fun v => isListed v.2)
  else
    for arg in args do
      let (name, value) := cutSetting arg
      refuseBadName name
      if let some value := value then Expand.assign name value
      let v := (← Act.variableNamed? name).getD ⟨none, false, false⟩
      Act.putVariable name (change v)
    return 0

/-- The name that the options of a function go by. -/
def optionsName : String := "-"

/-- Declares variables of a function. -/
def declareLocal : Builtin := fun _ _ _ args => do
  let p ← Act.process
  if p.calls = 0 then Act.refuse "not in a function"
  for arg in args do
    let (name, value) := cutSetting arg
    let isOptions := name = optionsName && value.isNone
    if !isOptions then refuseBadName name
    let old ← if isOptions then pure (some ⟨some (← Act.process).options, false, false⟩)
      else Act.variableNamed? name
    Act.changeProcess fun p =>
      match p.hidden with
      | [] => p
      | vs :: rest =>
        if vs.any (·.1 = name) then p else { p with hidden := ((name, old) :: vs) :: rest }
    if let some value := value then Expand.assign name value
  return 0

/-- Takes variables or functions away. -/
def unset : Builtin := fun _ _ _ args => do
  let (letters, names) ← options ['v', 'f'] args
  for arg in names do
    let name := String.ofList arg
    if letters.getLast? == some 'f' then
      Act.changeProcess fun p => { p with functions := p.functions.filter fun f => f.1 != name }
    else
      refuseBadName name
      if (← Act.variableNamed? name).any Variable.fixed then Act.refuse (name ++ ": is read only")
      Act.dropVariable name
  return 0

/-! ## Input -/

/-- A line of input as characters, each quoted or not, with its length in the
input and whether it has an end. -/
def cutLine (raw : Bool) : List Char → Nat → List Marked × Nat × Bool
  | [], taken => ([], taken, false)
  | c :: rest, taken =>
    if c = '\n' then ([], taken + 1, true)
    else if c = '\\' && !raw then
      match rest with
      | '\n' :: rest => cutLine raw rest (taken + 2)
      | d :: rest =>
        let (more, taken, ended) := cutLine raw rest (taken + 2)
        ((d, true) :: more, taken, ended)
      | [] => ([], taken + 1, false)
    else
      let (more, taken, ended) := cutLine raw rest (taken + 1)
      ((c, false) :: more, taken, ended)

/-- How far a line has been cut into fields. -/
structure Cutting where
  /-- The fields, the last one first. -/
  fields : List (List Char)
  /-- The field that is being read, the last character first. -/
  field : List Char
  /-- The length that the last field keeps, if there are separators at its end. -/
  kept : Option Nat
  /-- The fields that are still wanted. -/
  wanted : Nat
  /-- A blank separator was read just now. -/
  afterBlank : Bool

namespace Cutting

/-- One more character of the last field, which may be one of the separators at
its end. -/
def addLast (k : Cutting) (c : Char) (separates isBlank : Bool) : Cutting :=
  if isBlank then { k with field := c :: k.field, kept := k.kept.or (some k.field.length) }
  else
    { k with
      field := c :: k.field
      kept := if separates && k.afterBlank then k.kept else none
      afterBlank := false }

/-- One more separator behind a field, of which there are more. -/
def endField (k : Cutting) (c : Char) (isBlank : Bool) : Cutting :=
  if k.field.isEmpty && isBlank then { k with afterBlank := false }
  else if k.wanted ≤ 1 then
    { k with wanted := 0, kept := some k.field.length, field := c :: k.field, afterBlank := isBlank }
  else
    { k with
      fields := k.field :: k.fields, field := [], wanted := k.wanted - 1, afterBlank := isBlank }

/-- One more character.  A quoted one belongs to the field and says nothing of
its end. -/
def add (separators : List Char) (k : Cutting) (marked : Marked) : Cutting :=
  let (c, quoted) := marked
  let separates := separators.contains c
  let isBlank := separates && [' ', '\t', '\n'].contains c
  if quoted then { k with field := c :: k.field, afterBlank := false }
  else if k.wanted = 0 then k.addLast c separates isBlank
  else if k.afterBlank then
    if isBlank then k
    else { k with field := if separates then [] else [c], afterBlank := false }
  else if separates then k.endField c isBlank
  else { k with field := c :: k.field }

/-- The fields in their order. -/
def result (k : Cutting) : List (List Char) :=
  let last := match k.kept with
    | some n => k.field.drop (k.field.length - n)
    | none => k.field
  ((if last.isEmpty then k.fields else last :: k.fields).map List.reverse).reverse

end Cutting

/-- The fields of a line for so many variables.  The last one gets all that is
left without the separators at its end; quoted characters do not count as what
keeps separators. -/
def lineFields (separators : List Char) (count : Nat) (line : List Marked) :
    List (List Char) :=
  let k : Cutting := line.foldl (Cutting.add separators) ⟨[], [], none, count, false⟩
  (k.result ++ List.replicate count []).take count

/-- Reads a line into variables. -/
def read : Builtin := fun _ _ _ args => do
  let (letters, names) := Tools.lettersOf ['r'] args
  let names := match names with
    | ['-', 'p'] :: prompt :: names => (prompt, names)
    | names => ([], names)
  if names.2.isEmpty then Act.refuse "arg count"
  let raw := letters.contains 'r'
  let (line, taken, ended) := cutLine raw (← Act.remaining 0) 0
  Act.advance 0 taken
  let fields := lineFields (← Expand.separators) names.2.length line
  for (name, field) in names.2.zip fields do
    refuseBadName (String.ofList name)
    Expand.assign (String.ofList name) field
  return if ended then 0 else 1

/-! ## Options of scripts -/

/-- Ends the reading of options. -/
def endOptions (name : String) (index : Nat) : Act Nat := do
  Expand.assign name ['?']
  Act.putVariable "OPTIND" ⟨some (Numeral.decimal index), false, false⟩
  Act.changeProcess fun p => { p with optionsSeen := 0 }
  return 1

/-- Reads the next option of the script. -/
def getopts : Builtin := fun _ _ _ args => do
  match args with
  | known :: name :: given =>
    let name := String.ofList name
    let p ← Act.process
    let given := if given.isEmpty then p.arguments else given
    let index := (Numeral.value? (← Act.valueOf "OPTIND")).getD 1
    let present := if p.optionsSeen = 0 then index else index - 1
    let arg := given.getD (present - 1) []
    let seen := if p.optionsSeen = 0 then 1 else p.optionsSeen
    if p.optionsSeen = 0 && (arg.head? != some '-' || arg.length < 2) then endOptions name index
    else if p.optionsSeen = 0 && arg = ['-', '-'] then endOptions name (index + 1)
    else
      let letter := arg.getD seen '?'
      let silent := known.head? == some ':'
      let isLast := arg.length ≤ seen + 1
      let place := known.idxOf? letter
      let wantsArgument := place.any fun i => known[i + 1]? == some ':'
      let finish (next seen : Nat) (value : List Char) (found : Char) : Act Nat := do
        Act.putVariable "OPTIND" ⟨some (Numeral.decimal next), false, false⟩
        Act.putVariable "OPTARG" ⟨some value, false, false⟩
        Expand.assign name [found]
        Act.changeProcess fun p => { p with optionsSeen := seen }
        return 0
      let next := present + 1
      let nextSeen := if isLast then 0 else seen + 1
      if place.isNone || letter = ':' then
        if !silent then Act.warn ("Illegal option -".toList ++ [letter, '\n'])
        finish next nextSeen (if silent then [letter] else []) '?'
      else if !wantsArgument then finish next nextSeen [] letter
      else if !isLast then finish next 0 (arg.drop (seen + 1)) letter
      else
        match given[present]? with
        | some value => finish (next + 1) 0 value letter
        | none =>
          if !silent then
            Act.warn ("No arg for -".toList ++ [letter] ++ " option\n".toList)
          finish next 0 (if silent then [letter] else []) (if silent then ':' else '?')
  | _ => Act.refuse "Usage: getopts optstring var [arg...]"

/-! ## Signals and other processes -/

/-- Writes what is done at signals. -/
def showTraps : Act Nat := do
  let traps := (← Act.process).traps.mergeSort fun a b => a.1 ≤ b.1
  Tools.printing (traps.flatMap fun (signal, action) =>
    "trap -- ".toList ++ quoted action ++ [' '] ++ (Tools.signalName signal).toList ++ ['\n'])

/-- Says what is to be done at signals. -/
def trap : Builtin := fun _ _ _ args => do
  let (_, args) ← options [] args
  match args with
  | [] => showTraps
  | first :: rest =>
    let resets := rest.isEmpty || (Numeral.value? first).isSome
    let (action, names) := if resets then (none, args)
      else (if first = ['-'] then none else some first, rest)
    match names.find? fun name => (Tools.signal? name).isNone with
    | some name =>
      Act.warn ("trap: ".toList ++ name ++ ": bad trap\n".toList)
      return 1
    | none =>
      for name in names do
        let signal := (Tools.signal? name).getD 0
        Act.changeProcess fun p =>
          let others := p.traps.filter fun t => t.1 != signal
          { p with traps := match action with
              | some action => (signal, action) :: others
              | none => others }
      return 0

/-- Waits for other processes. -/
def wait : Builtin := fun run _ _ args => do
  let (_, args) ← options [] args
  if args.isEmpty then
    Run.awaitAll run Run.mostJobs
    Act.changeProcess fun p => { p with jobNumbers := [] }
    return 0
  else
    let statuses ← args.mapM fun arg => do
      match ← Run.awaitJob run ((← Tools.jobNamed? arg).getD arg) with
      | some status =>
        if 128 < status then
          if let some text := Tools.endingText? (status - 128) then
            Act.warn (text.toList ++ ['\n'])
        pure status
      | none => do
        if (Numeral.value? arg).isNone && arg.head? != some '%' then
          Act.refuse ("Illegal number: " ++ String.ofList arg)
        pure 127
    return statuses.getLastD 0

/-- Complains that no process can be dealt with. -/
def noJob : Builtin := fun _ _ _ _ => Act.refuse "No current job"

/-! ## Directories -/

/-- The working directory gets another place. -/
def enter (place : Location) : Act Unit := do
  let old ← Tools.workingDirectory
  Act.changeProcess fun p => { p with directory := place }
  Act.putVariable "OLDPWD" ⟨some old, true, false⟩
  Act.putVariable "PWD" ⟨some (← Tools.workingDirectory), true, false⟩

/-- The directories that a path is looked for in.  The empty one is the working
directory. -/
def startsFor (target : List Char) : Act (List (List Char)) := do
  let first := target.takeWhile (· != '/')
  let search ← Act.valueOf "CDPATH"
  if search.isEmpty || first.isEmpty || first = ['.'] || first = ['.', '.'] then return [[]]
  else return (Path.splitAt 0x3A (octetsOf search)).map charsOf ++ [[]]

/-- A path in a directory that it is looked for in. -/
def underStart (start target : List Char) : List Char :=
  if start.isEmpty then if target.isEmpty then ['.'] else target
  else start ++ ['/'] ++ target

/-- Changes the working directory. -/
def cd : Builtin := fun _ _ _ args => do
  let (_, args) ← options ['L', 'P'] args
  let target := args.headD (← Act.valueOf "HOME")
  let shown := target = ['-']
  let target ← if shown then Act.valueOf "OLDPWD" else pure target
  let files ← Act.files
  let starts ← startsFor target
  let paths := starts.map fun start => (start, underStart start target)
  match paths.find? fun path => files.isDirectory (pathOf path.2) with
  | some (start, path) =>
    match files.locate (pathOf path) with
    | .ok place =>
      enter place
      if shown || !start.isEmpty then Tools.pwd [] [] else return 0
    | .error _ => Act.refuse ("can't cd to " ++ String.ofList target)
  | none => Act.refuse ("can't cd to " ++ String.ofList target)

/-- Writes the working directory. -/
def pwd : Builtin := fun _ _ name args => do
  let (_, args) ← options ['L', 'P'] args
  Tools.pwd name args

/-! ## Abbreviations -/

/-- The lists that abbreviations are kept in, by their names. -/
def shelves : Nat := 39

/-- The list that an abbreviation is kept in. -/
def shelfOf (name : String) : Nat :=
  let cs := name.toList
  (cs.foldl (fun n c => n + c.toNat) (16 * (cs.headD '\x00').toNat)) % shelves

/-- An abbreviation as a command that makes it. -/
def shownAbbreviation (name : String) (text : List Char) : List Char :=
  name.toList ++ '=' :: quoted text ++ ['\n']

/-- Writes all abbreviations, list by list and the oldest first. -/
def showAbbreviations : Act Nat := do
  let all := (← Act.process).abbreviations.reverse
  let ordered := all.mergeSort fun a b => shelfOf a.1 ≤ shelfOf b.1
  Tools.printing (ordered.flatMap fun (name, text) => shownAbbreviation name text)

/-- The name in front of an equals sign that is not the first character, and
the text behind it. -/
def cutAbbreviation (arg : List Char) : String × Option (List Char) :=
  let name := arg.take 1 ++ (arg.drop 1).takeWhile (· != '=')
  (String.ofList name,
    if name.length = arg.length then none else some (arg.drop (name.length + 1)))

/-- The abbreviations with one more, which keeps its place if it is there. -/
def putAbbreviation (name : String) (text : List Char)
    (all : List (String × List Char)) : List (String × List Char) :=
  if (all.lookup name).isSome then
    all.map fun other => if other.1 = name then (name, text) else other
  else (name, text) :: all

/-- Says that there is no abbreviation with a name. -/
def missesAbbreviation (command name : List Char) : Act Bool := do
  Act.warn (command ++ ": ".toList ++ name ++ " not found\n".toList)
  return false

/-- Makes abbreviations or writes them. -/
def abbreviate : Builtin := fun _ _ command args => do
  if args.isEmpty then showAbbreviations
  else
    Tools.forEach args fun arg => do
      let (name, text) := cutAbbreviation arg
      match text, (← Act.process).abbreviations.lookup name with
      | some text, _ =>
        Act.changeProcess fun p =>
          { p with abbreviations := putAbbreviation name text p.abbreviations }
        return true
      | none, some text => return (← Tools.printing (shownAbbreviation name text)) = 0
      | none, none => missesAbbreviation command arg

/-- Takes abbreviations away. -/
def spellOut : Builtin := fun _ _ command args => do
  let (letters, names) ← options ['a'] args
  if letters.isEmpty then
    Tools.forEach names fun arg => do
      let name := String.ofList arg
      if ((← Act.process).abbreviations.lookup name).isSome then
        Act.changeProcess fun p =>
          { p with abbreviations := p.abbreviations.filter fun other => other.1 != name }
        return true
      else missesAbbreviation command arg
  else
    Act.changeProcess fun p => { p with abbreviations := [] }
    return 0

/-! ## Permissions of new files -/

/-- The groups of users and the bits that their permissions begin at. -/
def userBits : List (Char × Nat) :=
  [('u', 6), ('g', 3), ('o', 0)]

/-- The permissions and their bits. -/
def permissionBits : List (Char × Nat) :=
  [('r', 4), ('w', 2), ('x', 1)]

/-- The permissions that a mask leaves, by letters. -/
def maskLetters (mask : Nat) : List Char :=
  [','].intercalate (userBits.map fun (user, bit) =>
    user :: '=' :: (permissionBits.filter fun p => !mask.testBit (p.2.log2 + bit)).map Prod.fst)

/-- Changes permissions by one clause: users, an operator and letters. -/
def permissionsBy? (clause : List Char) (permissions : Nat) : Option Nat :=
  let users := clause.takeWhile fun c => c == 'a' || (userBits.lookup c).isSome
  let all := users.isEmpty || users.contains 'a'
  match clause.drop users.length with
  | sign :: letters =>
    if letters.all fun l => (permissionBits.lookup l).isSome then
      let bits := (letters.eraseDups.filterMap fun l => permissionBits.lookup l).foldl (· + ·) 0
      let wanted := userBits.filter fun u => all || users.contains u.1
      let given := (wanted.map fun u => bits <<< u.2).foldl (· ||| ·) 0
      let whole := (wanted.map fun u => 7 <<< u.2).foldl (· ||| ·) 0
      match sign with
      | '+' => some (permissions ||| given)
      | '-' => some ((permissions ||| given) ^^^ given)
      | '=' => some (((permissions ||| whole) ^^^ whole) ||| given)
      | _ => none
    else none
  | [] => none

/-- The clauses between commas. -/
def clausesOf : List Char → List (List Char)
  | [] => [[]]
  | c :: rest =>
    match clausesOf rest with
    | [] => [[c]]
    | first :: more => if c = ',' then [] :: first :: more else (c :: first) :: more

/-- All permissions. -/
def allPermissions : Nat := 511

/-- Sets the mask of new files or writes it. -/
def umask : Builtin := fun _ _ _ args => do
  let (letters, args) ← options ['S'] args
  let mask := (← Act.process).mask
  match args with
  | [] =>
    if letters.isEmpty then
      let digits := Tools.octalDigits mask
      Tools.printing (List.replicate (4 - digits.length) '0' ++ digits ++ ['\n'])
    else Tools.printing (maskLetters mask ++ ['\n'])
  | arg :: _ =>
    let isNumber := arg.head?.any Numeral.isDigit
    let found :=
      if isNumber then
        if arg.all Tools.isOctal then some (Tools.octalValue arg % (allPermissions + 1)) else none
      else
        ((clausesOf arg).foldlM (fun permissions clause => permissionsBy? clause permissions)
          (mask ^^^ allPermissions)).map (· ^^^ allPermissions)
    match found with
    | some mask =>
      Act.changeProcess fun p => { p with mask }
      return 0
    | none =>
      Act.refuse ((if isNumber then "Illegal number: " else "Illegal mode: ") ++ String.ofList arg)

/-! ## Settings that change nothing here -/

/-- Writes a limit. -/
def ulimit : Builtin := fun _ _ _ args => do
  if args.length ≤ 1 then Tools.printing "unlimited\n".toList else return 0

/-- Writes the times that were used. -/
def times : Builtin := fun _ _ _ _ =>
  Tools.printing "0m0.000000s 0m0.000000s\n0m0.000000s 0m0.000000s\n".toList

/-- Does nothing and succeeds. -/
def succeed : Builtin := fun _ _ _ _ => return 0

/-- Does nothing and fails. -/
def fail : Builtin := fun _ _ _ _ => return 1

/-- A tool as a command of the shell. -/
def ofTool (t : Tool) : Builtin := fun _ _ name args => t name args

/-! ## Finding them -/

/-- The special commands of the shell. -/
def specials : List (String × Builtin) :=
  [(":", succeed), (".", dot), ("break", leaveLoops .breakLoops),
    ("continue", leaveLoops .nextRound), ("eval", eval), ("exit", exit),
    ("export", declare "export" Variable.exported fun v => { v with exported := true }),
    ("readonly", declare "readonly" Variable.fixed fun v => { v with fixed := true }),
    ("local", declareLocal), ("return", goBack), ("set", set), ("shift", shift), ("times", times),
    ("trap", trap), ("unset", unset)]

/-- The other commands of the shell. -/
def regulars : List (String × Builtin) :=
  [("true", succeed), ("false", fail), ("echo", ofTool Tools.echo),
    ("printf", ofTool Tools.printf), ("test", ofTool Tools.test), ("[", ofTool Tools.test),
    ("kill", ofTool Tools.kill), ("pwd", pwd), ("cd", cd), ("chdir", cd),
    ("read", read), ("wait", wait), ("getopts", getopts), ("umask", umask), ("ulimit", ulimit),
    ("jobs", succeed), ("bg", noJob), ("fg", noJob), ("alias", abbreviate),
    ("unalias", spellOut)]

/-- The commands that change how the words behind them are carried out. -/
def leading : List String :=
  ["exec", "command", "type", "hash"]

/-- The special commands whose arguments set variables. -/
def setting : List String :=
  ["export", "readonly", "local"]

/-- A name of a special command of the shell. -/
def isSpecial (name : String) : Bool :=
  name == "exec" || (specials.lookup name).isSome

/-- A name of a command of the shell. -/
def isKnown (name : String) : Bool :=
  leading.contains name || (specials.lookup name).isSome || (regulars.lookup name).isSome

/-- The command of the shell with a name. -/
def find? (name : String) : Option Builtin :=
  (specials.lookup name).or (regulars.lookup name)

end Builtin

end EmbeddedPython.Shell
