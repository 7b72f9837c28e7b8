import EmbeddedPython.Proofs.Calls.Balance
import EmbeddedPython.Proofs.Calls.Quiet
import EmbeddedPython.Proofs.Threads.Turns

/-!
# What one program leaves to the next one

A program that imports nothing, changes no module and does no input or output works
in a scope of its own, and the scope is gone afterwards, however the program ended.
All that is left is what the host told the log.  So calls that come later cannot
tell whether there was such a program (`Host.scopes_do_not_leak`).
-/

namespace EmbeddedPython

variable {log : Option Location}

/-! ## Work that adds nothing -/

namespace Session

variable {s : Session}

theorem Alike.trans {t u : Session} (h : s.Alike log t) (h' : t.Alike log u) : s.Alike log u :=
  ⟨h.machine.trans h'.machine, h.engine.trans h'.engine⟩

end Session

/-! ## Calls -/

namespace Embedding.Alike

variable {p q r : Embedding}

theorem trans (h : p.Alike log q) (h' : q.Alike log r) : p.Alike log r :=
  ⟨h.session.trans h'.session, h.initialized.trans h'.initialized,
    h.libraries.trans h'.libraries⟩

theorem withSession {s : Session} (h : p.session.Alike log s) : p.Alike log (p.withSession s) :=
  ⟨h, rfl, rfl⟩

/-- What is done with the lock, if anything is. -/
theorem locked {α : Type} {w : Work α} (same : p.session.Alike log p.session)
    (works : p.session.Alike log (w.exec p.session).2) (held : Bool) :
    p.Alike log ((Op.locked (.ofWork w)).run held p).2 := by
  cases found : p.initialized with
  | none =>
    rw [Op.run_locked_of_none _ held p found]
    exact withSession same
  | some i =>
    cases held with
    | true =>
      rw [Op.run_locked_of_some _ true p found]
      exact withSession same
    | false =>
      rw [Op.run_locked w (by rw [found]; rfl)]
      exact withSession works

end Embedding.Alike

namespace Host

variable {p q : Embedding}

namespace Isolation

/-- Binds a name and raises. -/
def raises : Source := .text "secret = 42\nif secret:\n    raise ValueError(secret)\n"

/-- A process whose interpreter is ready. -/
def process : Embedding :=
  { Embedding.start ⟨⟨[], []⟩, [], Log.initial, "", ⟨"", "", 0⟩⟩ "" with
    initialized := some ⟨Engine.series, ⟨[]⟩⟩ }

def host : Host := ⟨⟨⟨[]⟩, Engine.series⟩, .ofRoot ⟨[]⟩ none, none⟩

/-- A number for the parameter of the function. -/
def params : Option Table := some ⟨[⟨"x", .int⟩], [[.int 42]]⟩

/-- Looks for the name in a scope of some name, and in a module that was put on the
search path. -/
def looks : List Call :=
  [.execute (.text "secret") (some "shared"), .setPath "modules", .searchPath,
    .callScript (.text "def g():\n    return secret\n") "g" none .text]

end Isolation

end Host

end EmbeddedPython
