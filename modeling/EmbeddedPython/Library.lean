import EmbeddedPython.HostError

/-!
# Shared libraries of the interpreter

A host holds a `Library` while it is open.  `Machine.locateLibrary` tries the
candidates of an installation and loads the first one that is a file;
`Machine.loadLibrary` loads a library from an explicit path.
-/

namespace EmbeddedPython

/-- A loaded library. -/
structure Library where
  path : Path
  /-- Which of the libraries of its process it is. -/
  number : Nat
deriving Repr, DecidableEq

namespace Library

/-- The text that shows a library. -/
def quoted (l : Library) : String :=
  Report.record "PythonLibrary" [("path", l.path.quoted)]

/-- The text of the file name of a path, empty if there is none. -/
def nameText (path : Path) : String :=
  (path.fileName?.map Octets.lossy).getD ""

/-- The error for a path that is no file. -/
def missing (path : Path) : HostError :=
  .libraryNotFound (path.parent?.getD path) (nameText path)

/-- The file at a path loads.  A path without a slash is searched among the
libraries of the machine, where nothing of the interpreter is. -/
def loads (files : FileSystem) (path : Path) : Bool :=
  path.octets.contains Path.slash &&
    match files.read path with
    | .ok .library => true
    | _ => false

end Library

namespace Machine

/-- The library at a path is loaded: its path, and the machine afterwards. -/
def loadLibrary (m : Machine) (path : Path) : Except HostError Path × Machine :=
  if !m.files.isFile path then (.error (Library.missing path), m)
  else
    let m := m.tell .debug ("Loading Python shared library: " ++ path.display)
    if !Library.loads m.files path then (.error (.libraryLoad path), m)
    else (.ok path, m.tell .debug "Python library loaded successfully")

/-- The library of an installation is loaded: its path, and the machine
afterwards.  The first candidate that is a file decides. -/
def locateLibrary (m : Machine) (i : Installation) : Except HostError Path × Machine :=
  let candidates := i.libraryCandidates
  let m := candidates.foldl
    (fun m path => m.tell .debug ("Checking for library at: " ++ path.display)) m
  match candidates.find? m.files.isFile with
  | some path => m.loadLibrary path
  | none =>
    (.error (.libraryNotFound i.root ((candidates.head?.map Library.nameText).getD "")), m)

end Machine

end EmbeddedPython
