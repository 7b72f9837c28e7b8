import EmbeddedPython.Shell.Tools.Filters
import EmbeddedPython.Shell.Tools.Signals

/-!
# Programs that can be started

`Image.ofPath` is what the system starts for a path and arguments.  A script
names the program that runs it in its first line, and that one is started with
the path of the script among its arguments.  It may be a script itself, but not
for ever.
-/

namespace EmbeddedPython.Shell

/-- A program. -/
inductive Program where
  | tool (t : Tool)
  | shell
  /-- Starts another program with other variables. -/
  | environment

/-- A program that is started under a name with arguments. -/
structure Image where
  program : Program
  name : List Char
  args : List (List Char)

namespace Image

/-- The programs that are no files of the host. -/
def programs : List (String × Program) :=
  [("[", .tool Tools.test), ("basename", .tool Tools.basename), ("bash", .shell), ("cat", .tool Tools.cat),
    ("chmod", .tool Tools.chmod), ("cp", .tool Tools.cp), ("dash", .shell),
    ("dirname", .tool Tools.dirname), ("echo", .tool Tools.echoProgram), ("env", .environment),
    ("false", .tool fun _ _ => return 1), ("head", .tool Tools.head), ("kill", .tool Tools.kill),
    ("ls", .tool Tools.ls), ("mkdir", .tool Tools.mkdir), ("mv", .tool Tools.mv),
    ("printf", .tool Tools.printf), ("pwd", .tool Tools.pwdProgram), ("rm", .tool Tools.rm),
    ("rmdir", .tool Tools.rmdir), ("seq", .tool Tools.seq), ("sh", .shell),
    ("sleep", .tool Tools.sleep), ("sort", .tool Tools.sort), ("tail", .tool Tools.tail),
    ("tee", .tool Tools.tee), ("test", .tool Tools.test), ("touch", .tool Tools.touch),
    ("tr", .tool Tools.tr), ("true", .tool fun _ _ => return 0), ("uniq", .tool Tools.uniq),
    ("wc", .tool Tools.wc), ("printenv", .tool Tools.printenv)]

/-- A blank in the first line of a script. -/
def isBlank (b : UInt8) : Bool :=
  b == 0x20 || b == 0x09

/-- An octet that ends the name of a program there. -/
def endsName (b : UInt8) : Bool :=
  isBlank b || b == 0

/-- The octets of a file that the system looks at. -/
def lookedAt : Nat := 256

/-- The program and the argument that stand in a line, if there is a program. -/
def nameAndArgument? (line : Octets) : Option (Octets × Option Octets) :=
  let line := ((line.reverse.dropWhile isBlank).reverse).dropWhile isBlank
  if line.isEmpty then none
  else
    let name := line.takeWhile fun b => !endsName b
    let rest := line.drop name.length
    let arg := (rest.dropWhile isBlank).takeWhile (· != 0)
    some (name, if rest.head? == some 0 || arg.isEmpty then none else some arg)

/-- The program that the first line of a script names, with its argument. -/
def interpreter? (content : Octets) : Except FileFault (Octets × Option Octets) :=
  let start := content.take lookedAt
  if start.take 2 != [0x23, 0x21] then .error .badFormat
  else
    let body := start.drop 2
    let line := body.takeWhile fun b => b != 0x0A && b != 0
    let found :=
      if (body.drop line.length).head? == some 0x0A then nameAndArgument? line
      else
        let padded := body ++ List.replicate (lookedAt - start.length) 0
        let name := padded.dropWhile isBlank
        if !name.any endsName then none else nameAndArgument? padded
    match found with
    | some found => .ok found
    | none => .error .badFormat

/-- Files of the system that are no programs. -/
def systemFiles : List String :=
  ["/dev/null", "/etc/passwd"]

/-- What the system starts for a path and the arguments behind the name, with
scripts up to some depth. -/
def ofPathIn (files : FileSystem) :
    Nat → (path name : List Char) → (args : List (List Char)) → Except FileFault Image
  | 0, _, _, _ => .error .tooManyLevels
  | depth + 1, path, name, args => do
    match Tools.programAt? path with
    | some program =>
      match programs.lookup program with
      | some program => return ⟨program, name, args⟩
      | none => .error .notFound
    | none =>
      if path.isEmpty || systemFiles.contains (String.ofList path) then .error .accessDenied
      if Tools.isBelowProgram path then .error .notDirectory
      match ← files.find (pathOf path) with
      | .directory => .error .accessDenied
      | .file f =>
        if !f.executable then .error .accessDenied
        else
          let (interpreter, arg) ← interpreter? (FileSystem.octetsOf f.content)
          let interpreter := charsOf interpreter
          ofPathIn files depth interpreter interpreter
            ((arg.map charsOf).toList ++ path :: args)

/-- The programs that may name one another in a row. -/
def deepest : Nat := 6

/-- What the system starts for a path, a name and arguments. -/
def ofPath (files : FileSystem) (path name : List Char) (args : List (List Char)) :
    Except FileFault Image :=
  ofPathIn files deepest path name args

/-- The same, except that the shell runs a file that names no program. -/
def orScript (files : FileSystem) (path name : List Char) (args : List (List Char)) :
    Except FileFault Image :=
  match ofPath files path name args with
  | .error .badFormat => .ok ⟨.shell, name, path :: args⟩
  | image => image

end Image

end EmbeddedPython.Shell
