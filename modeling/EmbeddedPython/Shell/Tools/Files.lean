import EmbeddedPython.Shell.Tools.Condition

/-!
# Programs on files

The programs that make, move and remove files and directories.  A program
goes on with its other arguments when one of them is at fault, and its status
tells that there was one.
-/

namespace EmbeddedPython.Shell.Tools

/-- Why an operation on a file failed, as programs say it. -/
def reason (fault : FileFault) : List Char :=
  (fault.message.toList.takeWhile (· != '(')).dropLast

/-- The options in front of arguments or between them, and the other
arguments. -/
def splitOptions : List (List Char) → List Char × List (List Char)
  | [] => ([], [])
  | ['-', '-'] :: rest => ([], rest)
  | ('-' :: letter :: letters) :: rest =>
    let (more, others) := splitOptions rest
    (letter :: letters ++ more, others)
  | arg :: rest =>
    let (more, others) := splitOptions rest
    (more, arg :: others)

/-- The end of a program that cannot use its arguments. -/
def misused (name : List Char) (text : String) : Act Nat := do
  Act.lament name text.toList
  Act.warn ("Try '".toList ++ name ++ " --help' for more information.\n".toList)
  return 1

/-- Reads the options of a program out of those that it knows. -/
def withOptions (known : String) (name : List Char) (args : List (List Char))
    (body : List Char → List (List Char) → Act Nat) : Act Nat := do
  let (options, args) := splitOptions args
  match options.find? fun o => !known.toList.contains o with
  | some o => misused name ("invalid option -- '" ++ o.toString ++ "'")
  | none => body options args

/-- Does something for every argument.  The status is one if any of them is at
fault. -/
def forEach (args : List (List Char)) (act : List Char → Act Bool) : Act Nat := do
  let successes ← args.mapM act
  return if successes.all id then 0 else 1

/-- Changes the files, or says what is in the way. -/
def change (name : List Char) (complaint : List Char)
    (step : FileSystem → Except FileFault FileSystem) : Act Bool := do
  match step (← Act.files) with
  | .ok files =>
    Act.setFiles files
    return true
  | .error fault =>
    Act.lament name (complaint ++ ": ".toList ++ reason fault)
    return false

/-- A text between single quotes. -/
def inQuotes (cs : List Char) : List Char :=
  ['\x27'] ++ cs ++ ['\x27']

/-- The path without the slashes at its end. -/
def withoutSlashes (cs : List Char) : List Char :=
  match (cs.reverse.dropWhile (· == '/')).reverse with
  | [] => cs.take 1
  | cs => cs

/-- The files with one more directory. -/
def makeDirectory (path : List Char) (files : FileSystem) : Except FileFault FileSystem := do
  let place ← files.locate (pathOf (withoutSlashes path))
  match files.node? place with
  | some _ => .error .alreadyExists
  | none => return files.createAt place

/-- Makes directories, with those on the way if asked to. -/
def mkdir : Tool := fun name args =>
  withOptions "pmv" name args fun options args => do
    let args := if options.contains 'm' then args.drop 1 else args
    if args.isEmpty then misused name "missing operand"
    else
      forEach args fun arg => do
        let step := if options.contains 'p' then
            fun files : FileSystem => files.createDirectories (pathOf arg)
          else makeDirectory arg
        let done ← change name ("cannot create directory ".toList ++ inQuotes arg) step
        if done && options.contains 'v' then
          let _ ← Act.print (name ++ ": created directory ".toList ++ inQuotes arg ++ ['\n'])
        return done

/-- The files without an empty directory. -/
def removeDirectory (path : List Char) (files : FileSystem) : Except FileFault FileSystem := do
  let place ← files.locate (pathOf path)
  match files.node? place with
  | some .directory => return files.clear place
  | some (.file _) => .error .notDirectory
  | none => .error .notFound

/-- Something is in a directory. -/
def isFull (files : FileSystem) (path : List Char) : Bool :=
  match files.locate (pathOf path) with
  | .ok place => !(files.names place).isEmpty
  | .error _ => false

/-- Removes directories that are empty. -/
def rmdir : Tool := fun name args =>
  withOptions "pv" name args fun _ args => do
    if args.isEmpty then misused name "missing operand"
    else
      forEach args fun arg => do
        let complaint := "failed to remove ".toList ++ inQuotes arg
        if isFull (← Act.files) arg then
          Act.lament name (complaint ++ ": Directory not empty".toList)
          return false
        else change name complaint (removeDirectory arg)

/-- The files without anything at a place or below it. -/
def withoutTree (files : FileSystem) (place : Location) : FileSystem :=
  { files with nodes := files.nodes.filter fun entry => !place.isPrefixOf entry.1 }

/-- The files without a file, or without a whole directory. -/
def removeTree (path : List Char) (files : FileSystem) : Except FileFault FileSystem := do
  let place ← files.locate (pathOf path)
  match files.node? place with
  | some _ => return withoutTree files place
  | none => .error .notFound

/-- Removes files, with directories if asked to. -/
def rm : Tool := fun name args =>
  withOptions "rRfvid" name args fun options args => do
    let forced := options.contains 'f'
    if args.isEmpty && !forced then misused name "missing operand"
    else
      forEach args fun arg => do
        if forced && !(← Act.files).exists? (pathOf arg) then return true
        else
          let whole := options.contains 'r' || options.contains 'R'
          let step := if whole then removeTree arg
            else fun files : FileSystem => files.remove (pathOf arg)
          change name ("cannot remove ".toList ++ inQuotes arg) step

/-- Makes files that are not there. -/
def touch : Tool := fun name args =>
  withOptions "acmf" name args fun options args => do
    if args.isEmpty then misused name "missing file operand"
    else
      forEach args fun arg => do
        let files ← Act.files
        if options.contains 'c' || files.isDirectory (pathOf arg) then return true
        else
          change name ("cannot touch ".toList ++ inQuotes arg)
            fun files => files.append (pathOf arg) []

/-- The last component of a path. -/
def lastComponent (cs : List Char) : List Char :=
  match (withoutSlashes cs).reverse.takeWhile (· != '/') with
  | [] => cs.take 1
  | reversed => reversed.reverse

/-- The path that something gets when it is put at a target: the name below a
directory, or the target itself. -/
def placeAt (files : FileSystem) (source target : List Char) : List Char :=
  if files.isDirectory (pathOf target) then
    withoutSlashes target ++ ['/'] ++ lastComponent source
  else target

/-- The files with a copy of a file. -/
def copyFile (source target : List Char) (files : FileSystem) :
    Except FileFault FileSystem := do
  let (place, old) ← files.openFile (pathOf target)
  match ← files.find (pathOf source) with
  | .file f =>
    let executable := match old with
      | some file => file.executable
      | none => f.executable
    return files.set place (.file { f with executable })
  | .directory => .error .isDirectory

/-- The files with a copy of everything at a path and below it. -/
def copyTree (source target : List Char) (files : FileSystem) :
    Except FileFault FileSystem := do
  let origin ← files.locate (pathOf source)
  let place ← files.locate (pathOf target)
  let copies := files.nodes.filterMap fun (at_, node) =>
    if origin.isPrefixOf at_ then some (place ++ at_.drop origin.length, node) else none
  return copies.foldl (fun files (at_, node) => files.set at_ node) files

/-- The sources and the target of a program that puts files somewhere. -/
def sourcesAndTarget? (name : List Char) (args : List (List Char)) :
    Act (Except Nat (List (List Char) × List Char)) := do
  match args.getLast?, args.dropLast with
  | none, _ => return .error (← misused name "missing file operand")
  | some last, [] =>
    return .error (← misused name
      ("missing destination file operand after '" ++ String.ofList last ++ "'"))
  | some last, sources => return .ok (sources, last)

/-- Something to be put somewhere is not there. -/
def lamentMissing (name arg : List Char) : Act Bool := do
  Act.lament name ("cannot stat ".toList ++ inQuotes arg ++ ": ".toList ++ reason .notFound)
  return false

/-- Copies files, with directories if asked to. -/
def cp : Tool := fun name args =>
  withOptions "rRafpdvT" name args fun options args => do
    let whole := ['r', 'R', 'a'].any options.contains
    match ← sourcesAndTarget? name args with
    | .error status => return status
    | .ok (sources, target) =>
      forEach sources fun source => do
        let files ← Act.files
        let place := placeAt files source target
        if !files.exists? (pathOf source) then lamentMissing name source
        else if files.isDirectory (pathOf source) then
          if !whole then
            Act.lament name ("-r not specified; omitting directory ".toList ++ inQuotes source)
            return false
          else
            change name ("cannot create directory ".toList ++ inQuotes place)
              (copyTree source place)
        else
          change name ("cannot create regular file ".toList ++ inQuotes place)
            (copyFile source place)

/-- Moves files and directories. -/
def mv : Tool := fun name args =>
  withOptions "fnvT" name args fun _ args => do
    match ← sourcesAndTarget? name args with
    | .error status => return status
    | .ok (sources, target) =>
      forEach sources fun source => do
        let files ← Act.files
        let place := placeAt files source target
        if !files.exists? (pathOf source) then lamentMissing name source
        else
          let step (files : FileSystem) : Except FileFault FileSystem := do
            let origin ← files.locate (pathOf source)
            let destination ← files.locate (pathOf place)
            if origin = destination then return files
            else
              let cleared := withoutTree files destination
              let moved ← copyTree source place cleared
              return withoutTree moved origin
          change name
            ("cannot move ".toList ++ inQuotes source ++ " to ".toList ++ inQuotes place) step

/-- What a mode makes of the permission to execute, if it is a mode. -/
def executableBy? (mode : List Char) (old : Bool) : Option Bool :=
  if !mode.isEmpty && mode.all isOctal then
    some (octalValue mode % 512 / 64 % 2 == 1 || octalValue mode / 8 % 2 == 1
      || octalValue mode % 2 == 1)
  else
    let who := mode.takeWhile ['u', 'g', 'o', 'a'].contains
    match mode.drop who.length with
    | sign :: letters =>
      if !letters.all ['r', 'w', 'x', 'X'].contains then none
      else if sign = '+' then some (old || letters.contains 'x')
      else if sign = '-' then some (old && !letters.contains 'x')
      else if sign = '=' then some (letters.contains 'x')
      else none
    | [] => none

/-- Changes whether files may be executed. -/
def chmod : Tool := fun name args => do
  match args with
  | [] => misused name "missing operand"
  | [mode] => misused name ("missing operand after '" ++ String.ofList mode ++ "'")
  | mode :: targets =>
    match executableBy? mode false with
    | none => misused name ("invalid mode: '" ++ String.ofList mode ++ "'")
    | some _ =>
      forEach targets fun target => do
        let files ← Act.files
        match files.locate (pathOf target), files.find (pathOf target) with
        | .ok place, .ok (.file f) =>
          let executable := (executableBy? mode f.executable).getD f.executable
          Act.setFiles (files.set place (.file { f with executable }))
          return true
        | _, .ok .directory => return true
        | _, _ =>
          Act.lament name ("cannot access ".toList ++ inQuotes target ++ ": ".toList
            ++ reason .notFound)
          return false

/-- Texts in their order, each on a line. -/
def sortedLines (texts : List (List Char)) : List Char :=
  (texts.mergeSort fun a b => !(b < a)).flatMap (· ++ ['\n'])

/-- The names in a directory that are shown. -/
def shownNames (files : FileSystem) (path : List Char) (all : Bool) : List (List Char) :=
  match files.locate (pathOf path) with
  | .ok place =>
    let names := (files.names place).map charsOf
    if all then ['.'] :: ['.', '.'] :: names
    else names.filter fun name => name.head? != some '.'
  | .error _ => []

/-- Lists directories. -/
def ls : Tool := fun name args =>
  withOptions "1aAdlhFrRt" name args fun options args => do
    let args := if args.isEmpty then [['.']] else args
    let files ← Act.files
    let missing := args.filter fun arg => !files.exists? (pathOf arg)
    for arg in missing do
      Act.lament name ("cannot access ".toList ++ inQuotes arg ++ ": ".toList ++ reason .notFound)
    let present := args.filter fun arg => files.exists? (pathOf arg)
    let isListed (arg : List Char) : Bool :=
      files.isDirectory (pathOf arg) && !options.contains 'd'
    let own := present.filter fun arg => !isListed arg
    let _ ← Act.print (sortedLines own)
    let directories := present.filter isListed
    for arg in directories do
      let title := if args.length = 1 then [] else arg ++ ":\n".toList
      let _ ← Act.print (title ++ sortedLines (shownNames files arg (options.contains 'a')))
    return if missing.isEmpty then 0 else 2

/-- The last component of a path, without an ending. -/
def basename : Tool := fun name args => do
  match args with
  | [] => misused name "missing operand"
  | path :: rest =>
    let last := lastComponent path
    let ending := rest.headD []
    let kept := if ending.isSuffixOf last && ending != last then
        last.take (last.length - ending.length)
      else last
    printing (kept ++ ['\n'])

/-- What is in front of the last component of a path. -/
def dirname : Tool := fun name args => do
  match args with
  | [] => misused name "missing operand"
  | args =>
    let directoryOf (path : List Char) : List Char :=
      let front := (withoutSlashes path).reverse.dropWhile (· != '/')
      if front.isEmpty then ['.'] else withoutSlashes front.reverse
    printing (args.flatMap fun path => directoryOf path ++ ['\n'])

/-- The working directory. -/
def workingDirectory : Act (List Char) := do
  return charsOf (Path.slash :: Path.joinWith Path.slash (← Act.process).directory)

/-- Writes the working directory. -/
def pwd : Tool := fun _ _ => do
  printing ((← workingDirectory) ++ ['\n'])

/-- Writes the working directory, as the program does. -/
def pwdProgram : Tool := fun name args => do
  if args.any fun arg => arg.head? != some '-' then
    Act.lament name "ignoring non-option arguments".toList
  pwd name args

end EmbeddedPython.Shell.Tools
