import EmbeddedPython.Engine.Import
import EmbeddedPython.HostError

/-!
# Work with the interpreter

A `Session` is an interpreter on a machine, and a `Work` is what the host does
with it.  It ends in a result or in a `Failure`, and what it did up to there
stays done in either case.

`Work.ofRun` is how exceptions of the interpreter become errors of the host:
the caller says what the exception interrupted.  Programs see no more of a
session than its `Workspace`.
-/

namespace EmbeddedPython

/-- An interpreter on a machine. -/
structure Session where
  machine : Machine
  engine : Engine
deriving Repr, Inhabited

/-- What programs work on. -/
def Session.workspace : Part Session Workspace where
  get s := ⟨s.machine.files, s.engine, s.machine.clock⟩
  put w s := ⟨{ s.machine with files := w.files, clock := w.clock }, w.engine⟩
  get_put _ _ := rfl
  put_get _ := rfl
  put_put _ _ _ := rfl

/-- Work of the host with an interpreter. -/
abbrev Work (α : Type) := ExceptT Failure (Steps Session) α

namespace Work

/-- The end in an error. -/
def fail {α : Type} (e : HostError) : Work α :=
  throw (.error e)

/-- An answer that was found without any work. -/
def ofExcept {α : Type} : Except HostError α → Work α
  | .ok a => return a
  | .error e => fail e

/-- Work of the interpreter, with the exception it may end in as a result. -/
def outcomeOf {α : Type} (r : Run α) : Work (Except Raised α) :=
  ExceptT.lift (r.run.on Session.workspace)

/-- Work of the interpreter, with the error that an exception ends in. -/
def ofRun {α : Type} (toError : Raised → HostError) (r : Run α) : Work α := do
  ofExcept ((← outcomeOf r).mapError toError)

/-- The machine. -/
def machine : Work Machine := do
  return (← get).machine

/-- Changes the machine. -/
def changeMachine (f : Machine → Machine) : Work Unit :=
  modify fun s => { s with machine := f s.machine }

/-- An answer of the machine, which may change with it. -/
def ofMachine {α : Type} (f : Machine → Except HostError α × Machine) : Work α := do
  ofExcept (← modifyGet fun s => ((f s.machine).1, { s with machine := (f s.machine).2 }))

/-- The state of the interpreter. -/
def engine : Work Engine := do
  return (← get).engine

/-- Changes the state of the interpreter. -/
def changeEngine (f : Engine → Engine) : Work Unit :=
  modify fun s => { s with engine := f s.engine }

/-- Sends a message to the log. -/
def tell (level : Log.Level) (message : String) : Work Unit :=
  changeMachine (·.tell level message)

/-- How long something took, as the clock tells it. -/
def elapsed : Work String := do
  return (← machine).clock.elapsed

/-- Work after which a namespace is gone, however the work ends. -/
def releasing {α : Type} (home : Home) (w : Work α) : Work α :=
  ExceptT.mk do
    let r ← w.run
    modify fun s => { s with engine := s.engine.release home }
    return r

theorem run_releasing {α : Type} (home : Home) (w : Work α) (s : Session) :
    (releasing home w).run.run s =
      ((w.run.run s).1,
        { (w.run.run s).2 with engine := (w.run.run s).2.engine.release home }) := by
  simp [releasing, ExceptT.run, ExceptT.mk]

end Work

namespace Machine

/-- The machine after a note on the rows of a table that are not used. -/
def noteUnusedRows (m : Machine) (t : Table) : Machine :=
  match t.unusedRows? with
  | some note => m.tell .debug note
  | none => m

end Machine

/-- The arguments of a call as the interpreter makes them: the first row is checked,
and then its cells are converted in turn. -/
def Table.converted (t : Table) : Except HostError (List Value) := do
  let row ← t.argumentRow.mapError .marshal
  ((row.getD []).mapM convert).mapError .python

namespace Work

/-- The arguments of a call: none without a table. -/
def argumentsOf : Option Table → Work (List Value)
  | none => return []
  | some t => do
    changeMachine (·.noteUnusedRows t)
    ofExcept t.converted

end Work

end EmbeddedPython
