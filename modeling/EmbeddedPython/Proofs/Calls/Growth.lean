import EmbeddedPython.Proofs.Calls.SearchPath

/-!
# The search path when imports are refreshed

A refresh of the imports leaves the interpreter as it is
(`SearchPath.run_refreshImports`): the entries that hosts have added are neither made
absolute nor dropped when they are repeated.

`SearchPath.only_grows` puts a refresh between calls of any kind.
-/

namespace EmbeddedPython

namespace SearchPath

variable {h : Host} {p q : Embedding} {new : List String}

/-- What a host answers that is asked for the search path. -/
def asked (h : Host) (p : Embedding) : Except Failure (List String) :=
  (h.searchPath.run false p).1

/-- What a host answers at the second of two moments is what it answers at the first
one, with some entries more behind it. -/
def Grows (h : Host) (p q : Embedding) (new : List String) : Prop :=
  ∃ path, asked h p = .ok path ∧ asked h q = .ok (path ++ new)

theorem Grows.answer {path : List String} (grows : Grows h p q new) (first : asked h p = .ok path) :
    asked h q = .ok (path ++ new) := by
  obtain ⟨path', first', second⟩ := grows
  rwa [Except.ok.inj (first.symm.trans first')]

namespace Mixed

/-- Refreshes by a thread that holds the lock and by one that does not, a script that
was run already, and an entry that is another name of the first one. -/
def again : List Made :=
  [⟨host, true, .refreshImports⟩, ⟨host, false, .runFile "e/x.py"⟩,
    ⟨host, false, .refreshImports⟩, ⟨host, false, .setPath "./a"⟩]

end Mixed

end SearchPath

end EmbeddedPython
