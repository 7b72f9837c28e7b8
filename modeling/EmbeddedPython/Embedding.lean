import EmbeddedPython.Activity
import EmbeddedPython.Library
import EmbeddedPython.Work

/-!
# Embeddings and the interpreter lock

An `Embedding` is a session of the interpreter, together with what is true
of the process around it: what initialized the interpreter, if anything did,
and which libraries were opened and given back.

An `Op` is an activity of a thread in an embedding.  `Op.locked` takes the lock
for an operation on an interpreter that is ready.  The interpreter is looked at
before the lock is asked for.

Work with the interpreter is done by `Op.ofWork`.  It sees the session and
nothing else, so it can neither take the lock nor initialize the
interpreter.
-/

namespace EmbeddedPython

/-- What initialized the interpreter of a process. -/
structure Initialization where
  version : Version
  library : Path
deriving Repr, DecidableEq

/-- The libraries of a process, which are numbered as they are opened. -/
structure Libraries where
  /-- How many were opened. -/
  opened : Nat
  /-- The numbers of those that were given back. -/
  released : List Nat
deriving Repr, DecidableEq, Inhabited

/-- A process that may have an interpreter. -/
structure Embedding where
  session : Session
  /-- Once set, this never changes. -/
  initialized : Option Initialization
  libraries : Libraries
deriving Repr, Inhabited

namespace Embedding

/-- The process before anything happened in it. -/
def start (machine : Machine) (banner : String) : Embedding :=
  ⟨⟨machine, .initial banner⟩, none, ⟨0, []⟩⟩

/-- The session of a process. -/
def inSession : Part Embedding Session where
  get p := p.session
  put session p := { p with session }
  get_put _ _ := rfl
  put_get _ := rfl
  put_put _ _ _ := rfl

/-- The process with one more library. -/
def openLibrary (p : Embedding) : Embedding :=
  { p with libraries := { p.libraries with opened := p.libraries.opened + 1 } }

/-- The process after a library was given back. -/
def releaseLibrary (p : Embedding) (library : Library) : Embedding :=
  { p with libraries :=
    { p.libraries with released := p.libraries.released ++ [library.number] } }

/-- The process with an interpreter, which stays the first one. -/
def record (p : Embedding) (i : Initialization) : Embedding :=
  { p with initialized := p.initialized.or (some i) }

end Embedding

/-- An operation on an embedding. -/
abbrev Op (α : Type) := Activity Embedding α

namespace Op

/-- The end in an error. -/
def fail {α : Type} (e : HostError) : Op α :=
  .fails (.error e)

/-- The end in a panic. -/
def panic {α : Type} (p : Panic) : Op α :=
  .fails (.panic p)

/-- An answer that was found without any work. -/
def ofExcept {α : Type} : Except HostError α → Op α
  | .ok a => return a
  | .error e => fail e

/-- Work with the interpreter. -/
def ofWork {α : Type} (w : Work α) : Op α :=
  .ofSteps (w.run.on Embedding.inSession)

@[simp]
theorem run_ofWork {α : Type} (w : Work α) (held : Bool) (p : Embedding) :
    (ofWork w).run held p =
      ((w.run.run p.session).1, { p with session := (w.run.run p.session).2 }) := by
  rw [ofWork, Activity.run_ofSteps, Steps.run_on]
  rfl

/-- The machine. -/
def machine : Op Machine := do
  return (← get).session.machine

/-- Changes the machine. -/
def changeMachine (f : Machine → Machine) : Op Unit :=
  ofWork (.changeMachine f)

/-- An answer of the machine, which may change with it. -/
def ofMachine {α : Type} (f : Machine → Except HostError α × Machine) : Op α :=
  ofWork (.ofMachine f)

/-- Sends a message to the log. -/
def tell (level : Log.Level) (message : String) : Op Unit :=
  ofWork (.tell level message)

/-! ## Libraries -/

/-- Opens the library of an installation. -/
def openLibrary (i : Installation) : Op Library := do
  let path ← ofMachine (·.locateLibrary i)
  let number ← modifyGet fun p => (p.libraries.opened, p.openLibrary)
  return ⟨path, number⟩

/-! ## The lock -/

/-- Whoever holds the lock does not get it again. -/
theorem run_guarded_of_held {α β : Type} (purpose : Purpose) (body : Op β)
    (next : Except Failure β → Op α) (p : Embedding) :
    (Activity.guarded purpose body next).run true p =
      (next (.error (.error .reentrant))).run true p := rfl

/-- The body runs while the lock is held, and the lock is free afterwards. -/
theorem run_guarded_of_free {α β : Type} (purpose : Purpose) (body : Op β)
    (next : Except Failure β → Op α) (p : Embedding) :
    (Activity.guarded purpose body next).run false p =
      (next (body.run true p).1).run false (body.run true p).2 := rfl

/-- An operation with the lock. -/
def exclusive {α : Type} (purpose : Purpose) (op : Op α) : Op α :=
  .guarded purpose op .ends

/-- An operation with the lock on an interpreter that is ready. -/
def locked {α : Type} (op : Op α) : Op α := do
  if (← get).initialized.isNone then fail .notInitialized
  exclusive .use op

/-- Without an interpreter nothing is run. -/
theorem run_locked_of_none {α : Type} (op : Op α) (held : Bool) (p : Embedding)
    (h : p.initialized = none) :
    (locked op).run held p = (.error (.error .notInitialized), p) := by
  cases p
  subst h
  rfl

theorem run_locked_of_some {α : Type} (op : Op α) (held : Bool) (p : Embedding)
    {i : Initialization} (h : p.initialized = some i) :
    (locked op).run held p = (exclusive .use op).run held p := by
  cases p
  subst h
  rfl

end Op

end EmbeddedPython
