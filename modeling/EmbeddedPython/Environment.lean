import EmbeddedPython.HostError

/-!
# The environment of an installation

An interpreter finds its files by three environment variables.  `Plan.ofTarget`
says what they are for an installation: its own directories go in front of
the search path that was inherited, and nothing of that is lost.
`Machine.install` sets them.
-/

namespace EmbeddedPython

/-- The environment variables of an installation. -/
structure Plan where
  /-- The directories that executables are searched in. -/
  path : Octets
  home : Path
  /-- The directory of installed packages. -/
  packages : Path
deriving Repr, DecidableEq

namespace Plan

/-- The octet between the entries of a search path. -/
def separator : UInt8 := 0x3A

/-- The entries of an inherited search path.  An empty one has none. -/
def inheritedEntries (inherited : Option Octets) : List Octets :=
  match inherited with
  | none | some [] => []
  | some path => Path.splitAt separator path

/-- The directories of an installation itself. -/
def ownEntries (i : Installation) : List Path :=
  [i.root, Layout.scripts i.root, i.sitePackages]

/-- The plan of an installation. -/
def ofTarget (i : Installation) (inherited : Option Octets) :
    Except ConfigurationFault Plan :=
  let entries := (ownEntries i).map Path.octets ++ inheritedEntries inherited
  if entries.any (·.contains separator) then .error (.separator i.root)
  else .ok ⟨Path.joinWith separator entries, i.root, i.sitePackages⟩

end Plan

namespace Machine

/-- The plan of an installation in front of the search path in force. -/
def planFor (m : Machine) (i : Installation) : Except ConfigurationFault Plan :=
  Plan.ofTarget i (m.environment? "PATH")

/-- The machine with the environment of a plan. -/
def install (m : Machine) (plan : Plan) : Machine :=
  let m := m.setVariable "PATH" plan.path
  let m := m.setVariable "PYTHONHOME" plan.home.octets
  let m := m.setVariable "PYTHONPATH" plan.packages.octets
  m.tell .debug
    ("Set PYTHONHOME=" ++ plan.home.display ++ " PYTHONPATH=" ++ plan.packages.display)

/-- The values of the three variables. -/
def installed (m : Machine) : List (Option Octets) :=
  [m.environment? "PATH", m.environment? "PYTHONHOME", m.environment? "PYTHONPATH"]

end Machine

end EmbeddedPython
