import EmbeddedPython.Shell.Tools.Printing

/-!
# Conditions

The command `test`.  It takes its arguments for operators by their number
where that decides, and by their look else.  A condition reads a row of
arguments from the front, and the operator that stands in the way of its end is
complained about.
-/

namespace EmbeddedPython.Shell.Tools

/-- The file that takes everything and keeps nothing. -/
def nullDevice : List Char := "/dev/null".toList

/-- The programs that are no files of the host. -/
def programNames : List String :=
  ["[", "basename", "bash", "cat", "chmod", "cp", "dash", "dirname", "echo", "env", "false", "head", "kill",
    "ls", "mkdir", "mv", "printenv", "printf", "pwd", "rm", "rmdir", "seq", "sh", "sleep", "sort",
    "tail", "tee", "test", "touch", "tr", "true", "uniq", "wc"]

/-- The location of the program with a name in one of the two directories of
programs. -/
def locationsOf (name : String) : List Location :=
  let name := Octets.ofText name
  let directory := Octets.ofText "bin"
  [[directory, name], [Octets.ofText "usr", directory, name]]

/-- The name of the program at a path. -/
def programAt? (path : List Char) : Option String :=
  let p := pathOf path
  if !p.isAbsolute || p.segments.getLast?.any Path.isIdle then none
  else
    let place := p.segments.foldl FileSystem.enter []
    programNames.find? fun name => (locationsOf name).contains place

/-- A path that goes on below a program. -/
def isBelowProgram (path : List Char) : Bool :=
  let p := pathOf path
  p.isAbsolute && (List.range p.segments.length).any fun count =>
    (programAt? (charsOf (Path.ofSegments true (p.segments.take count)).octets)).isSome

/-! ## Operators -/

/-- The kind of an argument that looks like an operator. -/
inductive Kind where
  | unary
  | binary
  | both
  | either
  | negation
  | parenthesis
deriving Repr, DecidableEq

/-- The operators on one argument. -/
def unaryOperators : List String :=
  ["-r", "-w", "-x", "-e", "-f", "-d", "-c", "-b", "-p", "-u", "-g", "-k", "-s", "-t", "-z", "-n",
    "-h", "-O", "-G", "-L", "-S"]

/-- The operators between two arguments. -/
def binaryOperators : List String :=
  ["=", "!=", "<", ">", "-eq", "-ne", "-ge", "-gt", "-le", "-lt", "-nt", "-ot", "-ef"]

/-- The kind of operator that an argument is by itself. -/
def kind? (arg : List Char) : Option Kind :=
  let text := String.ofList arg
  if unaryOperators.contains text then some .unary
  else if binaryOperators.contains text then some .binary
  else if text = "-a" then some .both
  else if text = "-o" then some .either
  else if text = "!" then some .negation
  else if text = "(" || text = ")" then some .parenthesis
  else none

/-- The kind of operator that the first of some arguments is in front of the
others. -/
def kindOfFirst? : List (List Char) → Option Kind
  | [] => none
  | first :: rest =>
    match kind? first with
    | some .unary =>
      match rest with
      | [] => none
      | [_] => some .unary
      | second :: _ => if kind? second = some .binary then none else some .unary
    | some .parenthesis =>
      if first = ['('] && rest.isEmpty then none else some .parenthesis
    | kind => kind

/-! ## Truth -/

/-- The end at arguments that are no condition. -/
def misplaced {α : Type} (operator : List Char) (text : String) : Act α :=
  Act.refuse (if operator.isEmpty then text else String.ofList operator ++ ": " ++ text)

/-- The number that an argument is. -/
def integerOf (arg : List Char) : Act Int := do
  match Sum.integer? false arg with
  | some n => return n.toInt
  | none => Act.refuse ("Illegal number: " ++ String.ofList arg)

/-- A condition on one argument. -/
def unaryTest (operator arg : List Char) : Act Bool := do
  let files ← Act.files
  let path := pathOf arg
  let isProgram := (programAt? arg).isSome
  let isDevice := arg == nullDevice
  let isThere := files.exists? path || isProgram || isDevice
  match String.ofList operator with
  | "-e" | "-r" | "-w" | "-O" | "-G" => return isThere
  | "-f" => return files.isFile path || isProgram
  | "-d" => return files.isDirectory path
  | "-c" => return isDevice
  | "-x" => return files.isExecutable path || files.isDirectory path || isProgram
  | "-s" =>
    match files.read path with
    | .ok content => return !(FileSystem.octetsOf content).isEmpty
    | .error _ => return files.isDirectory path || isProgram
  | "-n" => return !arg.isEmpty
  | "-z" => return arg.isEmpty
  | "-t" =>
    let _ ← integerOf arg
    return false
  | _ => return false

/-- A condition on two arguments. -/
def binaryTest (operator a b : List Char) : Act Bool := do
  match String.ofList operator with
  | "=" => return a == b
  | "!=" => return a != b
  | "<" => return a < b
  | ">" => return b < a
  | "-nt" => return (← Act.files).exists? (pathOf a) && !(← Act.files).exists? (pathOf b)
  | "-ot" => return !(← Act.files).exists? (pathOf a) && (← Act.files).exists? (pathOf b)
  | "-ef" =>
    match (← Act.files).locate (pathOf a), (← Act.files).locate (pathOf b) with
    | .ok a, .ok b => return a == b && ((← Act.files).node? a).isSome
    | _, _ => return false
  | operator =>
    let a ← integerOf a
    let b ← integerOf b
    match operator with
    | "-eq" => return a == b
    | "-ne" => return a != b
    | "-ge" => return b ≤ a
    | "-gt" => return b < a
    | "-le" => return a ≤ b
    | _ => return a < b

mutual

/-- Conditions with `-o` between them.  What is left begins with the last
argument that was looked at. -/
def eitherTest : Nat → Option Kind → List (List Char) → Act (Bool × List (List Char))
  | 0, _, args => return (false, args)
  | steps + 1, kind, args => do
    let (truth, left) ← bothTest steps kind args
    if kindOfFirst? (left.drop 1) = some .either then
      let (other, left) ← eitherTest steps (kindOfFirst? (left.drop 2)) (left.drop 2)
      return (truth || other, left)
    else return (truth, left)

/-- Conditions with `-a` between them. -/
def bothTest : Nat → Option Kind → List (List Char) → Act (Bool × List (List Char))
  | 0, _, args => return (false, args)
  | steps + 1, kind, args => do
    let (truth, left) ← negatedTest steps kind args
    if kindOfFirst? (left.drop 1) = some .both then
      let (other, left) ← bothTest steps (kindOfFirst? (left.drop 2)) (left.drop 2)
      return (truth && other, left)
    else return (truth, left)

/-- A condition, perhaps with a `!` in front. -/
def negatedTest : Nat → Option Kind → List (List Char) → Act (Bool × List (List Char))
  | 0, _, args => return (false, args)
  | steps + 1, kind, args => do
    if kind = some .negation then
      let rest := args.drop 1
      if rest.isEmpty then return (true, args)
      else
        let (truth, left) ← negatedTest steps (kindOfFirst? rest) rest
        return (!truth, left)
    else primaryTest steps kind args

/-- A condition of one operator. -/
def primaryTest : Nat → Option Kind → List (List Char) → Act (Bool × List (List Char))
  | 0, _, args => return (false, args)
  | steps + 1, kind, args => do
    match args with
    | [] => return (false, args)
    | first :: rest =>
      if kind = some .parenthesis && first = ['('] then
        if rest.head? == some [')'] then return (false, rest)
        else
          let (truth, left) ← eitherTest steps (kindOfFirst? rest) rest
          if left.drop 1 |>.head? |>.any (· == [')']) then return (truth, left.drop 1)
          else misplaced [] "closing paren expected"
      else if kind = some .unary then
        match rest with
        | [] => misplaced first "argument expected"
        | arg :: _ => return (← unaryTest first arg, rest)
      else if kindOfFirst? rest = some .binary then
        match rest with
        | operator :: b :: _ => return (← binaryTest operator first b, rest.drop 1)
        | operator :: [] => misplaced operator "argument expected"
        | [] => return (false, rest)
      else return (!first.isEmpty, args)

end

/-- The truth of arguments, which are all to be used. -/
def conditionFrom (kind : Option Kind) (args : List (List Char)) : Act Bool := do
  let (truth, left) ← eitherTest (4 * args.length + 4) kind args
  match left with
  | last :: _ :: _ => misplaced last "unexpected operator"
  | _ => return truth

/-- The truth of a condition.  The steps bound the negations in front. -/
def condition : Nat → List (List Char) → Act Bool
  | 0, _ => return false
  | _, [] => return false
  | steps + 1, args => do
    let decided := args.length = 3 && kind? (args.getD 1 []) = some .binary
    if decided then conditionFrom none args
    else if args.length = 3 || args.length = 4 then
      if args.head? == some ['('] && args.getLast? == some [')'] then
        let inner := (args.drop 1).dropLast
        conditionFrom (kindOfFirst? inner) inner
      else if args.head? == some ['!'] then return !(← condition steps (args.drop 1))
      else conditionFrom (kindOfFirst? args) args
    else conditionFrom (kindOfFirst? args) args

/-- Tests a condition. -/
def test : Tool := fun name args => do
  let bracketed := name.getLast? == some '['
  if bracketed && args.getLast? != some [']'] then Act.refuse "missing ]"
  let args := if bracketed then args.dropLast else args
  return if ← condition (args.length + 1) args then 0 else 1

end EmbeddedPython.Shell.Tools
