import EmbeddedPython.Shell.Tools.Files

/-!
# Programs on texts

The programs that read files, or their input where no file is named, and write
something made of it.  Also here is `sleep`, which does nothing for a while.
-/

namespace EmbeddedPython.Shell.Tools

/-! ## Sources -/

/-- What is in a file. -/
def contentOf (arg : List Char) : Act (Except FileFault (List Char)) := do
  if arg = nullDevice then return .ok []
  else return ((← Act.files).read (pathOf arg)).map fun c => charsOf (FileSystem.octetsOf c)

/-- The text of a source: of the input for a single dash, or of a file. -/
def source (arg : List Char) : Act (Except FileFault (List Char)) := do
  if arg = ['-'] then return .ok (← Act.readAll 0) else contentOf arg

/-- Does something with each source, of which the input is the only one where
none is named. -/
def forSources (args : List (List Char)) (complaint : List Char → FileFault → Act Unit)
    (act : List Char → List Char → Act Unit) : Act Nat :=
  forEach (if args.isEmpty then [['-']] else args) fun arg => do
    match ← source arg with
    | .ok text =>
      act arg text
      return true
    | .error fault =>
      complaint arg fault
      return false

/-- A character that a program shows between quotes. -/
def isOdd (c : Char) : Bool :=
  " !\x22$&'()*:;<=>?[\\^\x60|".toList.contains c || c.toNat < 32

/-- A name as a program shows it, between quotes if it needs them. -/
def shownName (cs : List Char) : List Char :=
  if cs.isEmpty || cs.any isOdd || cs.head?.any ['#', '~'].contains then inQuotes cs else cs

/-- Says that a source cannot be read. -/
def unreadable (name arg : List Char) (fault : FileFault) : Act Unit :=
  Act.lament name (shownName arg ++ ": ".toList ++ reason fault)

/-- Says that a source cannot be opened. -/
def unopened (name arg : List Char) (fault : FileFault) : Act Unit :=
  Act.lament name ("cannot open ".toList ++ inQuotes arg ++ " for reading: ".toList
    ++ reason fault)

/-- The lines of a text, each with its end. -/
def linesOf (cs : List Char) : List (List Char) :=
  match linesIn cs with
  | ([], lines) => lines
  | (front, lines) => front :: lines
where
  /-- The rest of a line, and the lines behind it. -/
  linesIn : List Char → List Char × List (List Char)
    | [] => ([], [])
    | c :: rest =>
      let (line, lines) := linesIn rest
      if c = '\n' then ([c], if line.isEmpty then lines else line :: lines)
      else (c :: line, lines)

/-- A line without its end. -/
def bare (line : List Char) : List Char :=
  if line.getLast? == some '\n' then line.dropLast else line

/-! ## Filters -/

/-- Writes what is in the sources. -/
def cat : Tool := fun name args =>
  withOptions "u" name args fun _ args =>
    forSources args (unreadable name) fun _ text => do
      let _ ← Act.print text

/-- Writes the name of a source in front of what is in it, if there are
several. -/
def title (args : List (List Char)) (arg : List Char) : Act Unit := do
  if 1 < args.length then
    let gap := if args.head? == some arg then [] else ['\n']
    let _ ← Act.print (gap ++ "==> ".toList ++ arg ++ " <==\n".toList)

/-- What an option like `-n 3` or `-3` says about a part of a text: how many, and
whether they are octets. -/
def countOf : List (List Char) → Option (List Char) × Bool × List (List Char)
  | ['-', 'n'] :: n :: rest => (some n, false, rest)
  | ['-', 'c'] :: n :: rest => (some n, true, rest)
  | ('-' :: 'n' :: n) :: rest => (some n, false, rest)
  | ('-' :: 'c' :: n) :: rest => (some n, true, rest)
  | ('-' :: d :: n) :: rest =>
    if Numeral.isDigit d then (some (d :: n), false, rest) else (none, false, ('-' :: d :: n) :: rest)
  | rest => (none, false, rest)

/-- Writes the beginning of each source. -/
def head : Tool := fun name args => do
  let (count, octets, args) := countOf args
  let n := (count.bind Numeral.value?).getD 10
  forSources args (unopened name) fun arg text => do
    title args arg
    let _ ← Act.print (if octets then text.take n else ((linesOf text).take n).flatten)

/-- The last of some things, or all but the first ones. -/
def lastOf {α : Type} (count : List Char) (xs : List α) : List α :=
  match count with
  | '+' :: digits => xs.drop ((Numeral.value? digits).getD 1 - 1)
  | digits => xs.drop (xs.length - (Numeral.value? digits).getD 10)

/-- Writes the end of each source. -/
def tail : Tool := fun name args => do
  let first := args.headD []
  let (count, octets, args) := countOf args
  let n := count.getD ['1', '0']
  if 1 < args.length && first == '-' :: n then
    Act.lament name ("option used in invalid context -- ".toList ++ n.take 1)
    return 1
  forSources args (unopened name) fun arg text => do
    title args arg
    let _ ← Act.print (if octets then lastOf n text else (lastOf n (linesOf text)).flatten)

/-- The words in a text. -/
def wordCount (cs : List Char) : Nat :=
  (cs.foldl (fun (count, inside) c =>
    if Sum.isBlank c then (count, false) else (if inside then count else count + 1, true))
    (0, false)).1

/-- Counts lines, words and octets. -/
def wc : Tool := fun name args =>
  withOptions "lwcm" name args fun options args => do
    let wants (o : Char) : Bool := options.isEmpty || options.contains o
    let countsOf (text : List Char) : List Nat :=
      (if wants 'l' then [(text.filter (· == '\n')).length] else [])
        ++ (if wants 'w' then [wordCount text] else [])
        ++ (if wants 'c' || options.contains 'm' then [text.length] else [])
    let texts := (← args.mapM source).filterMap Except.toOption
    let size := (texts.map List.length).foldl (· + ·) 0
    let width := if (countsOf []).length = 1 && args.length ≤ 1 then 1
      else if args.isEmpty then 7
      else (Numeral.decimal size).length
    let line (counts : List Nat) (title : List Char) : List Char :=
      let shown := counts.map fun n =>
        let digits := Numeral.decimal n
        List.replicate (width - digits.length) ' ' ++ digits
      spaced shown ++ title ++ ['\n']
    let status ← forSources args (unreadable name) fun arg text => do
      let _ ← Act.print (line (countsOf text) (if args.isEmpty then [] else ' ' :: arg))
    if 1 < args.length then
      let sums := (List.range (countsOf []).length).map fun i =>
        (texts.map fun text => (countsOf text).getD i 0).foldl (· + ·) 0
      let _ ← Act.print (line sums " total".toList)
    return status

/-- The same lines without those that repeat the one before. -/
def withoutRepeats : List (List Char) → List (List Char × Nat)
  | [] => []
  | line :: rest =>
    match withoutRepeats rest with
    | (next, count) :: more =>
      if next = line then (line, count + 1) :: more else (line, 1) :: (next, count) :: more
    | [] => [(line, 1)]

/-- Sorts the lines of all sources. -/
def sort : Tool := fun name args =>
  withOptions "urn" name args fun options args => do
    let (status, text) ← Act.capture (cat name args)
    let lines := (linesOf text).map bare
    let key (line : List Char) : Int :=
      ((Sum.integer? false (line.takeWhile fun c => c == '-' || Numeral.isDigit c)).map
        Int64.toInt).getD 0
    let before (a b : List Char) : Bool :=
      if options.contains 'n' && key a != key b then key a < key b else !(b < a)
    let sorted := lines.mergeSort before
    let sorted := if options.contains 'r' then sorted.reverse else sorted
    let sorted := if options.contains 'u' then (withoutRepeats sorted).map Prod.fst else sorted
    let _ ← Act.print (sorted.flatMap (· ++ ['\n']))
    return status

/-- Writes lines that repeat the one before once. -/
def uniq : Tool := fun name args =>
  withOptions "cdu" name args fun options args => do
    let (status, text) ← Act.capture (cat name (args.take 1))
    let groups := withoutRepeats ((linesOf text).map bare)
    let kept := groups.filter fun (_, count) =>
      (!options.contains 'd' || 1 < count) && (!options.contains 'u' || count = 1)
    let _ ← Act.print (kept.flatMap fun (line, count) =>
      let digits := Numeral.decimal count
      let shown := if options.contains 'c' then
          List.replicate (7 - digits.length) ' ' ++ digits ++ [' ']
        else []
      shown ++ line ++ ['\n'])
    return status

/-- The characters that a set names, with its ranges and escapes.  Every step
takes a character. -/
def setOf : Nat → List Char → List Char
  | 0, _ => []
  | steps + 1, cs =>
    match cs with
    | [] => []
    | a :: '-' :: b :: rest =>
      (List.range (b.toNat + 1 - a.toNat)).map (fun n => Char.ofNat (a.toNat + n))
        ++ setOf steps rest
    | '\\' :: c :: rest => (escape? c).getD c :: setOf steps rest
    | c :: rest => c :: setOf steps rest

/-- Replaces or deletes characters of the input. -/
def tr : Tool := fun name args =>
  withOptions "d" name args fun options args => do
    match args with
    | [] => misused name "missing operand"
    | first :: rest =>
      let front := setOf first.length first
      let back := setOf (rest.headD []).length (rest.headD [])
      let text ← Act.readAll 0
      if options.contains 'd' then printing (text.filter fun c => !front.contains c)
      else
        printing (text.map fun c =>
          match front.idxOf? c with
          | some i => back.getD i (back.getLast?.getD c)
          | none => c)

/-- Writes the input to the output and to files. -/
def tee : Tool := fun name args =>
  withOptions "a" name args fun options args => do
    let text ← Act.readAll 0
    let _ ← Act.print text
    forEach args fun arg =>
      change name arg fun files =>
        if options.contains 'a' then files.append (pathOf arg) (octetsOf text)
        else files.write (pathOf arg) (octetsOf text)

/-- Writes numbers one after the other. -/
def seq : Tool := fun name args => do
  let numbers := args.map fun arg => (Sum.integer? false arg).map Int64.toInt
  let (first, step, last) := match numbers with
    | [last] => (some 1, some 1, last)
    | [first, last] => (first, some 1, last)
    | [first, step, last] => (first, step, last)
    | _ => (none, none, none)
  match first, step, last with
  | some first, some step, some last =>
    let span := if 0 < step then last - first else first - last
    let count := if span < 0 || step = 0 then 0 else span.toNat / step.natAbs + 1
    let shown := (List.range (min count State.patience)).map fun (i : Nat) =>
      (Numeral.signed (first + step * (i : Int))).toList ++ ['\n']
    printing shown.flatten
  | _, _, _ => misused name "missing operand"

/-! ## Time -/

/-- The milliseconds in a unit of time. -/
def unit? : List Char → Option Nat
  | [] | ['s'] => some 1000
  | ['m'] => some (60 * 1000)
  | ['h'] => some (60 * 60 * 1000)
  | ['d'] => some (24 * 60 * 60 * 1000)
  | _ => none

/-- The milliseconds that an argument stands for: a decimal number with up to
three places that count, and a unit. -/
def milliseconds? (arg : List Char) : Option Nat := do
  let whole := arg.takeWhile Numeral.isDigit
  let rest := arg.drop whole.length
  let places := match rest with
    | '.' :: more => more.takeWhile Numeral.isDigit
    | _ => []
  let rest := match rest with
    | '.' :: _ => rest.drop (places.length + 1)
    | _ => rest
  if whole.isEmpty && places.isEmpty then none
  let unit ← unit? rest
  let thousandths := Numeral.valueOf ((places ++ ['0', '0', '0']).take 3)
  return (Numeral.valueOf whole * 1000 + thousandths) * unit / 1000

/-- The time that arguments stand for together, or what is wrong with them. -/
def duration (name : List Char) (args : List (List Char)) : Act (Except Nat Nat) := do
  match args.find? fun arg => (milliseconds? arg).isNone with
  | some ('-' :: letter :: _) =>
    return .error (← misused name ("invalid option -- '" ++ letter.toString ++ "'"))
  | some _ =>
    let odd := args.filter fun arg => (milliseconds? arg).isNone
    let complaint (arg : List Char) : String := "invalid time interval '" ++ String.ofList arg ++ "'"
    for arg in odd.dropLast do
      Act.lament name (complaint arg).toList
    return .error (← misused name (complaint (odd.getLastD [])))
  | none =>
    if args.isEmpty then return .error (← misused name "missing operand")
    else return .ok ((args.filterMap milliseconds?).foldl (· + ·) 0)

/-- Does nothing for a while. -/
def sleep : Tool := fun name args => do
  match ← duration name args with
  | .ok milliseconds =>
    Act.sleep milliseconds
    return 0
  | .error status => return status

/-! ## Variables -/

/-- Writes the values of variables, or all of them with their names. -/
def printenv : Tool := fun _ args => do
  let exported := (← Act.process).bindings.filter fun v => v.2.exported
  let valueOf (name : String) : Option (List Char) := (exported.lookup name).bind (·.value)
  if args.isEmpty then
    printing (exported.reverse.flatMap fun (name, v) =>
      name.toList ++ '=' :: v.value.getD [] ++ ['\n'])
  else
    let values := args.map fun arg => valueOf (String.ofList arg)
    let _ ← printing ((values.filterMap id).flatMap (· ++ ['\n']))
    return if values.all Option.isSome then 0 else 1

end EmbeddedPython.Shell.Tools
