import EmbeddedPython.Version

/-!
# Installations

An `Installation` is a root directory and the series of the interpreter
that is installed there.  Where things are below the root follows from the
two: nothing here looks at a file system.
-/

namespace EmbeddedPython

/-! ## Layout of a root -/

namespace Layout

/-- The directory of libraries, by name. -/
def libraryDirectory : String := "lib"

/-- The directory of executables. -/
def scripts (root : Path) : Path :=
  root / "bin"

/-- The directory of installed packages of a series. -/
def sitePackages (root : Path) (series : String) : Path :=
  root / libraryDirectory / ("python" ++ series) / "site-packages"

/-- The executables that an installation may have, the preferred one first. -/
def executables (root : Path) : List Path :=
  [root / "bin/python3", root / "bin/python"]

/-- The directories of shared libraries, in the order of preference. -/
def libraryDirectories (root : Path) : List Path :=
  [root / libraryDirectory, root / "lib64",
    root / libraryDirectory / "x86_64-linux-gnu", root]

/-- The names of the shared library of a series, the preferred one first. -/
def libraryNames (series : String) : List String :=
  ["libpython" ++ series ++ ".so.1.0", "libpython" ++ series ++ ".so"]

end Layout

/-- A root directory and the series that is installed there. -/
structure Installation where
  root : Path
  version : Version
deriving Repr, DecidableEq, Inhabited

namespace Installation

/-- The installation at a root.  An explicit version goes before what the
root names. -/
def resolve (root : Path) (version : Option String) :
    Except Version.Fault Installation :=
  match version with
  | some explicit => (Version.parse explicit).map fun v => ⟨root, v⟩
  | none => (Version.ofRoot root).map fun v => ⟨root, v⟩

/-- The text of the series. -/
def series (i : Installation) : String :=
  i.version.text

/-- The directory of installed packages. -/
def sitePackages (i : Installation) : Path :=
  Layout.sitePackages i.root i.series

/-- The places of the shared library, in the order they are tried: every
directory with the first name, then every directory with the second. -/
def libraryCandidates (i : Installation) : List Path :=
  (Layout.libraryNames i.series).flatMap fun (name : String) =>
    (Layout.libraryDirectories i.root).map fun directory => directory / name

end Installation

end EmbeddedPython
