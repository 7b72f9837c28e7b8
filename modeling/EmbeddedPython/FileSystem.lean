import EmbeddedPython.Lookup
import EmbeddedPython.Path
import EmbeddedPython.Program

/-!
# File systems

A `FileSystem` is a finite tree of directories and files with a working
directory.  A node is named by its `Location`, the names on the way from
the root.

* `FileSystem.node?` is the view: the node at a location.  The three
  updates `set`, `clear` and `createAt` are stated through it.
* `FileSystem.locate` follows a path from the root or from the working
  directory to the location it names.  Everything in front of the last name
  has to be a directory.
* The operations on paths (`read`, `write`, `append`, `remove`,
  `createDirectories`) fail with a `FileFault`, as the system words it.
-/

namespace EmbeddedPython

/-- Why an operation on a file failed. -/
inductive FileFault where
  | notFound
  | accessDenied
  | alreadyExists
  | notDirectory
  | isDirectory
  | badFormat
  | nameTooLong
  /-- A program that names a program, and so on without an end. -/
  | tooManyLevels
  /-- A path that holds a zero octet. -/
  | zeroOctet
  /-- A file that is no text. -/
  | notText
deriving Repr, DecidableEq

namespace FileFault

/-- The number that the system gives a fault, and its words.  The last two
faults are found before the system is asked. -/
def ofSystem? : FileFault → Option (Nat × String)
  | notFound => some (2, "No such file or directory")
  | accessDenied => some (13, "Permission denied")
  | alreadyExists => some (17, "File exists")
  | notDirectory => some (20, "Not a directory")
  | isDirectory => some (21, "Is a directory")
  | badFormat => some (8, "Exec format error")
  | nameTooLong => some (36, "File name too long")
  | tooManyLevels => some (40, "Too many levels of symbolic links")
  | zeroOctet | notText => none

/-- What is said about a fault. -/
def message (fault : FileFault) : String :=
  match fault.ofSystem? with
  | some (number, words) => words ++ " (os error " ++ Numeral.text number ++ ")"
  | none =>
    if fault = zeroOctet then "file name contained an unexpected NUL byte"
    else "stream did not contain valid UTF-8"

end FileFault

/-- What a file holds. -/
inductive Content where
  | octets (o : Octets)
  /-- A program, given by what it does. -/
  | program (cs : List Clause)
  /-- A shared library that loads. -/
  | library
deriving Repr, Inhabited

/-- A file. -/
structure File where
  content : Content
  executable : Bool
deriving Repr, Inhabited

/-- An entry of a directory. -/
inductive Node where
  | directory
  | file (f : File)
deriving Repr, Inhabited

/-- The names on the way from the root. -/
abbrev Location := List Octets

/-- A tree of directories and files. -/
structure FileSystem where
  nodes : List (Location × Node)
  /-- The working directory. -/
  current : Location
deriving Repr, Inhabited

namespace FileSystem

/-! ## Nodes -/

/-- The node at a location.  The root is always there. -/
def node? (fs : FileSystem) (at_ : Location) : Option Node :=
  match at_ with
  | [] => some .directory
  | _ => fs.nodes.lookup at_

/-- The tree with a node at a location. -/
def set (fs : FileSystem) (at_ : Location) (node : Node) : FileSystem :=
  { fs with nodes := (at_, node) :: fs.nodes.filter fun entry => entry.1 != at_ }

/-- The tree without a node at a location. -/
def clear (fs : FileSystem) (at_ : Location) : FileSystem :=
  { fs with nodes := fs.nodes.filter fun entry => entry.1 != at_ }

theorem node?_set (fs : FileSystem) {at_ : Location} (h : at_ ≠ []) (node : Node) :
    (fs.set at_ node).node? at_ = some node := by
  cases at_ with
  | nil => exact absurd rfl h
  | cons name rest => exact List.lookup_cons_self

theorem node?_set_of_ne (fs : FileSystem) {at_ other : Location} (h : other ≠ at_)
    (node : Node) : (fs.set at_ node).node? other = fs.node? other := by
  cases other with
  | nil => rfl
  | cons name rest => exact Lookup.lookup_put_of_ne h node fs.nodes

theorem node?_clear (fs : FileSystem) {at_ : Location} (h : at_ ≠ []) :
    (fs.clear at_).node? at_ = none := by
  cases at_ with
  | nil => exact absurd rfl h
  | cons name rest => exact Lookup.lookup_without _ fs.nodes

theorem node?_clear_of_ne (fs : FileSystem) {at_ other : Location} (h : other ≠ at_) :
    (fs.clear at_).node? other = fs.node? other := by
  cases other with
  | nil => rfl
  | cons name rest => exact Lookup.lookup_without_of_ne h fs.nodes

/-- The tree with a directory at a location that had nothing. -/
def createAt (fs : FileSystem) (at_ : Location) : FileSystem :=
  fs.set at_ .directory

/-- The names of the entries of the directory at a location. -/
def names (fs : FileSystem) (at_ : Location) : List Octets :=
  fs.nodes.filterMap fun entry =>
    if entry.1.dropLast = at_ then entry.1.getLast? else none

/-! ## Paths -/

/-- The path of the working directory. -/
def workingDirectory (fs : FileSystem) : Path :=
  ⟨Path.slash :: Path.joinWith Path.slash fs.current⟩

/-- The longest name of an entry. -/
def longestName : Nat := 255

/-- The length that a path stays below. -/
def longestPath : Nat := 4096

/-- The location of an entry of the directory at a location. -/
def enter (at_ : Location) (segment : Octets) : Location :=
  if Path.isIdle segment then at_
  else if segment = [Path.dot, Path.dot] then at_.dropLast
  else at_ ++ [segment]

/-- The location that segments lead to, from a location.  Every location
that is left again has to be a directory. -/
def follow (fs : FileSystem) : Location → List Octets → Except FileFault Location
  | at_, [] => .ok at_
  | at_, segment :: rest =>
    match fs.node? at_ with
    | none => .error .notFound
    | some (.file _) => .error .notDirectory
    | some .directory =>
      if longestName < segment.length then .error .nameTooLong
      else fs.follow (enter at_ segment) rest

/-- The location that a path names.  Nothing has to be there. -/
def locate (fs : FileSystem) (p : Path) : Except FileFault Location :=
  if p.octets.contains 0 then .error .zeroOctet
  else if p.octets.isEmpty then .error .notFound
  else if longestPath ≤ p.octets.length then .error .nameTooLong
  else fs.follow (if p.isAbsolute then [] else fs.current) p.segments

/-- The node that a path names. -/
def find (fs : FileSystem) (p : Path) : Except FileFault Node := do
  let at_ ← fs.locate p
  match fs.node? at_ with
  | some node => return node
  | none => .error .notFound

/-- A path to something. -/
def exists? (fs : FileSystem) (p : Path) : Bool :=
  match fs.find p with
  | .ok _ => true
  | .error _ => false

/-- The file that a path names. -/
def file? (fs : FileSystem) (p : Path) : Option File :=
  match fs.find p with
  | .ok (.file f) => some f
  | _ => none

/-- A path to a file. -/
def isFile (fs : FileSystem) (p : Path) : Bool :=
  (fs.file? p).isSome

/-- A path to a directory. -/
def isDirectory (fs : FileSystem) (p : Path) : Bool :=
  match fs.find p with
  | .ok .directory => true
  | _ => false

/-- A path to a file that may be executed. -/
def isExecutable (fs : FileSystem) (p : Path) : Bool :=
  (fs.file? p).any File.executable

/-! ## Operations -/

/-- The content of a file. -/
def read (fs : FileSystem) (p : Path) : Except FileFault Content := do
  match ← fs.find p with
  | .file f => return f.content
  | .directory => .error .isDirectory

/-- The text of some content, as the source of a program. -/
def sourceOf (content : Content) : Except FileFault Source :=
  match content with
  | .program cs => .ok (.clauses cs)
  | .library => .error .notText
  | .octets o =>
    match Octets.text? o with
    | some text => .ok (.text text)
    | none => .error .notText

/-- The source in a file. -/
def readSource (fs : FileSystem) (p : Path) : Except FileFault Source :=
  fs.read p >>= sourceOf

/-- The text in a file. -/
def readText (fs : FileSystem) (p : Path) : Except FileFault String := do
  match ← fs.read p with
  | .octets o =>
    match Octets.text? o with
    | some text => return text
    | none => .error .notText
  | _ => .error .notText

/-- The segments without the empty ones at the end. -/
def dropSlashes (segments : List Octets) : List Octets :=
  (segments.reverse.dropWhile List.isEmpty).reverse

/-- The place of a file that is going to be written, with what is in it.  A
path that ends in a slash names a directory, even where nothing is. -/
def openFile (fs : FileSystem) (p : Path) : Except FileFault (Location × Option File) :=
  if p.octets.getLast? == some Path.slash then do
    let _ ← fs.locate (Path.ofSegments p.isAbsolute (dropSlashes p.segments))
    .error .isDirectory
  else do
    let at_ ← fs.locate p
    match fs.node? at_ with
    | some .directory => .error .isDirectory
    | some (.file f) => return (at_, some f)
    | none => return (at_, none)

/-- The tree with the octets as all there is in the file. -/
def write (fs : FileSystem) (p : Path) (o : Octets) : Except FileFault FileSystem := do
  let (at_, old) ← fs.openFile p
  return fs.set at_ (.file ⟨.octets o, old.any File.executable⟩)

/-- The octets of some content, where they are known. -/
def octetsOf : Content → Octets
  | .octets o => o
  | .program _ | .library => []

/-- The tree with the octets behind what is in the file. -/
def append (fs : FileSystem) (p : Path) (o : Octets) : Except FileFault FileSystem := do
  let (at_, old) ← fs.openFile p
  let before := (old.map fun f => octetsOf f.content).getD []
  return fs.set at_ (.file ⟨.octets (before ++ o), old.any File.executable⟩)

/-- The tree without the file. -/
def remove (fs : FileSystem) (p : Path) : Except FileFault FileSystem := do
  let at_ ← fs.locate p
  match fs.node? at_ with
  | some (.file _) => return fs.clear at_
  | some .directory => .error .isDirectory
  | none => .error .notFound

/-- The tree with directories all along the segments, from a location. -/
def createAlong (fs : FileSystem) : Location → List Octets → Except FileFault FileSystem
  | _, [] => .ok fs
  | at_, segment :: rest =>
    let next := enter at_ segment
    if longestName < segment.length then .error .nameTooLong
    else
      match fs.node? next with
      | some .directory => fs.createAlong next rest
      | none => (fs.createAt next).createAlong next rest
      | some (.file _) =>
        if rest.isEmpty then .error .alreadyExists else .error .notDirectory

/-- The tree with a directory at the path and at every path in front of it.
The empty path needs none. -/
def createDirectories (fs : FileSystem) (p : Path) : Except FileFault FileSystem :=
  if p.octets.isEmpty then .ok fs
  else if p.octets.contains 0 then .error .zeroOctet
  else if longestPath ≤ p.octets.length then .error .nameTooLong
  else fs.createAlong (if p.isAbsolute then [] else fs.current) p.segments

/-- The tree with directories along the segments, from a location, as far as
they can be made. -/
def makeAlong (fs : FileSystem) : Location → List Octets → FileSystem
  | _, [] => fs
  | at_, segment :: rest =>
    let next := enter at_ segment
    if longestName < segment.length then fs
    else
      match fs.node? next with
      | some .directory => fs.makeAlong next rest
      | none => (fs.createAt next).makeAlong next rest
      | some (.file _) => fs

/-- The tree with the directories of a path, as far as they can be made. -/
def makeDirectories (fs : FileSystem) (p : Path) : FileSystem :=
  if p.octets.contains 0 || longestPath ≤ p.octets.length then fs
  else fs.makeAlong (if p.isAbsolute then [] else fs.current) p.segments

/-- What is told when the directories of a path cannot be made.  They are made
one by one if something on the way is missing, and then a file in the way is
found where a directory should be made. -/
def directoryFault (fs : FileSystem) (p : Path) (fault : FileFault) : FileFault :=
  match fs.locate p, fault with
  | .error .notFound, .notDirectory => .alreadyExists
  | _, fault => fault

end FileSystem

end EmbeddedPython
