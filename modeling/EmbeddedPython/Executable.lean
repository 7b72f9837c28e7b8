import EmbeddedPython.Installation
import EmbeddedPython.Machine

/-!
# Executables of the interpreter

`Machine.interpreter?` is the executable of an installation: one below its
root, or one of the series on the search path.
-/

namespace EmbeddedPython

namespace Path

/-- The name that stands for the home directory. -/
def tilde : Octets := [0x7E]

/-- A path with the parts that some components name behind it. -/
def pushComponents (p : Path) (cs : List Component) : Path :=
  cs.foldl (fun p c =>
    match c with
    | .root => ⟨[slash]⟩
    | .current => p / "."
    | .above => p / ".."
    | .name octets => p.join ⟨octets⟩) p

/-- A path in which a tilde in front was replaced by the home directory. -/
def expandTilde (home : Option Path) (p : Path) : Path :=
  match p.components, home with
  | .name first :: more, some home =>
    if first = tilde then home.pushComponents more else p
  | _, _ => p

end Path

namespace Machine

/-- The absolute path for a path that is read from the working directory.  A
relative path loses its idle segments on the way. -/
def absolute (m : Machine) (p : Path) : Path :=
  if p.isAbsolute then p
  else m.files.workingDirectory.pushComponents (p.components.dropWhile (· == .current))

/-- The entries of the search path. -/
def searchEntries (m : Machine) : List Path :=
  match m.environment? "PATH" with
  | some path => (Path.splitAt 0x3A path).map Path.mk
  | none => []

/-- The places where a command may be.  A name of several components is
not searched for, but taken from the working directory. -/
def commandCandidates (m : Machine) (name : Path) : List Path :=
  if name.components.length > 1 then [m.absolute name]
  else m.searchEntries.map fun entry => m.absolute (entry.expandTilde m.home? / name)

/-- The first executable file with the name of a command. -/
def command? (m : Machine) (name : Path) : Option Path :=
  (m.commandCandidates name).find? m.files.isExecutable

/-- The executable of an installation: a file below the root, or else a
command of the series. -/
def interpreter? (m : Machine) (root : Path) (series : String) : Option Path :=
  ((Layout.executables root).find? m.files.isFile).or
    (m.command? (Path.ofText ("python" ++ series)))

end Machine

end EmbeddedPython
