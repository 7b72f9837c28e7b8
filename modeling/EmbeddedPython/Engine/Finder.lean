import EmbeddedPython.Engine.State
import EmbeddedPython.Program

/-!
# Finding modules

A module name is a row of parts with dots between them.  All parts but the
last name packages, and `Finder.search` looks for the last one in a row of
directories.

* A directory of that name with an `__init__.py` in it is a package.
* A file of that name with the ending `.py` is a module.
* Directories of that name without an `__init__.py` make up a package
  together, but only if nothing else is found in any place.

The first directory that has a package or a file decides, and in it the
package goes before the file.
-/

namespace EmbeddedPython

namespace ModuleName

/-- The characters in front of the last dot and behind it.  Without a dot
there are none in front. -/
def cutLast (cs : List Char) : List Char × List Char :=
  let behind := (cs.reverse.takeWhile (· != '.')).reverse
  ((cs.take (cs.length - behind.length)).dropLast, behind)

/-- The name of the package that a module is in. -/
def parent? (name : String) : Option String :=
  match (cutLast name.toList).1 with
  | [] => none
  | cs => some (String.ofList cs)

/-- The last part of a name. -/
def tail (name : String) : String :=
  String.ofList (cutLast name.toList).2

/-- The first part of a name. -/
def head (name : String) : String :=
  String.ofList (name.toList.takeWhile (· != '.'))

end ModuleName

namespace Finder

/-- What makes up a module. -/
inductive Finding where
  /-- A directory with a file that is run for the package. -/
  | package (directory : Path)
  | file (path : Path)
  /-- The directories of a package without a file. -/
  | spread (directories : List Path)
deriving Repr

/-- The octets without the slashes at the end. -/
def dropSlashes (octets : Octets) : Octets :=
  (octets.reverse.dropWhile (· == Path.slash)).reverse

/-- The path of an entry of a directory. -/
def entryOf (directory : Path) (name : String) : Path :=
  ⟨dropSlashes directory.octets ++ [Path.slash] ++ dropSlashes (Octets.ofText name)⟩

/-- The directory that an entry of the search path names.  The empty entry and
the single dot are the working directory. -/
def directoryOf (files : FileSystem) (entry : String) : Path :=
  if entry.isEmpty || entry = "." then files.workingDirectory
  else if (Path.ofText entry).isAbsolute then Path.ofText entry
  else entryOf files.workingDirectory entry

/-- A name that an entry of a directory may have. -/
def isEntryName (name : String) : Bool :=
  name.toList.all fun c => c != '/' && c != Char.ofNat 0

/-- The file that is run for a package. -/
def packageFile (directory : Path) : Path :=
  entryOf directory "__init__.py"

/-- The package or file that a directory has under a name. -/
def findIn (files : FileSystem) (tail : String) (directory : Path) : Option Finding :=
  if !isEntryName tail || !files.isDirectory directory then none
  else
    let inner := entryOf directory tail
    let file := entryOf directory (tail ++ ".py")
    if !tail.isEmpty && files.isFile (packageFile inner) then some (.package inner)
    else if files.isFile file then some (.file file)
    else none

/-- A directory that a directory has under a name. -/
def portionIn (files : FileSystem) (tail : String) (directory : Path) : Option Path :=
  let inner := entryOf directory tail
  if tail.isEmpty || !isEntryName tail || !files.isDirectory inner then none else some inner

/-- A path that can be looked at: no zero octet is in it. -/
def isReadable (directory : Path) : Bool :=
  !directory.octets.contains 0

/-- A path with a zero octet that is looked at. -/
def zeroOctet : Raised :=
  ⟨"ValueError", "embedded null byte"⟩

/-- What the directories have under a name.  They are looked at in order, and
one that cannot be looked at ends the search. -/
def search (files : FileSystem) (directories : List Path) (tail : String) :
    Except Raised (Option Finding) :=
  match (directories.takeWhile isReadable).findSome? (findIn files tail) with
  | some found => .ok (some found)
  | none =>
    if !directories.all isReadable then .error zeroOctet
    else
      match directories.filterMap (portionIn files tail) with
      | [] => .ok none
      | portions => .ok (some (.spread portions))

/-! ## Modules -/

/-- The file that holds the program of a module. -/
def Finding.source? : Finding → Option Path
  | package directory => some (packageFile directory)
  | file path => some path
  | spread _ => none

/-- The directories that the modules of a package are searched in. -/
def Finding.places? : Finding → Option (List Path)
  | package directory => some [directory]
  | file _ => none
  | spread directories => some directories

/-- The name in front of the ending of a source, or the ending if there is
nothing in front of it. -/
def stemOf (name : Octets) : Octets :=
  let stem := name.take (name.length - ".py".utf8ByteSize)
  if stem.isEmpty then Octets.ofText "py" else stem

/-- The place of a compiled module, which is bound but never used.  The path of
the source is cut at its last slash and otherwise left as it is. -/
def compiledFile (source : Path) : Path :=
  let parts := source.segments
  let name := stemOf (parts.getLast?.getD []) ++ Octets.ofText ".cpython-311.pyc"
  let directory := dropSlashes (Path.joinWith Path.slash parts.dropLast)
  ⟨Path.joinWith Path.slash
    ((if directory.isEmpty then [] else [directory]) ++ [Octets.ofText "__pycache__", name])⟩

/-- The names that a module has before its program runs. -/
def Finding.names (found : Finding) (name : String) : Namespace :=
  let package := if found.places?.isSome then name else (ModuleName.parent? name).getD ""
  let loader := if found.source?.isSome then "SourceFileLoader" else "NamespaceLoader"
  let places := match found with
    | .package directory => [("__path__", .list [.str directory.display])]
    | .file _ => []
    | .spread directories =>
      [("__path__", .derived "_NamespacePath" (.list (directories.map fun d => .str d.display)))]
  let files := match found.source? with
    | some path =>
      [("__file__", .str path.display), ("__cached__", .str (compiledFile path).display),
       ("__builtins__", .object "dict")]
    | none => [("__file__", .none)]
  .ofList
    ([("__name__", .str name), ("__doc__", .none), ("__package__", .str package),
      ("__loader__", .object loader), ("__spec__", .object "ModuleSpec")] ++ places ++ files)

/-- The names of a module that is there without a file of the host. -/
def standardNames (name : String) : Namespace :=
  let own := if name = "os.path" then "posixpath" else name
  let isPackage := Standard.packageNames.contains name
  let package := if isPackage then name else (ModuleName.parent? name).getD ""
  let places := if isPackage then [("__path__", .list [])] else []
  .ofList
    ([("__name__", .str own), ("__doc__", .none), ("__package__", .str package),
      ("__loader__", .object "SourceFileLoader"), ("__spec__", .object "ModuleSpec")] ++ places)

/-! ## Sources -/

/-- The statements of a file. -/
def compileFile (content : Content) : Except SyntaxFault (List Statement) :=
  match content with
  | .program clauses => (Source.clauses clauses).compile
  | .library => .error .zero
  | .octets octets => do
    let program ← Program.readFile octets
    Program.check program

end Finder

end EmbeddedPython
