import EmbeddedPython.Host
import EmbeddedPython.Proofs.Engine.Ends
import EmbeddedPython.Proofs.Marshal.Arguments

/-!
# What calls do with a session

`Work.exec` is how work of the host ends and what it leaves of a session, with
one lemma for each way to put work together.  `Embedding.does` is the same for a
process.

A call whose arguments are in order, made by a thread that does not hold the
lock, on an interpreter that is ready, is work with the session and nothing else:
`Host.run_execute`, `Host.run_callScript` and `Host.run_callFile`.
-/

namespace EmbeddedPython

/-! ## Activities -/

theorem Activity.run_bind {σ α β : Type} (a : Activity σ α) (k : α → Activity σ β) (held : Bool)
    (s : σ) :
    (a >>= k).run held s =
      match (a.run held s).1 with
      | .ok x => (k x).run held (a.run held s).2
      | .error f => (.error f, (a.run held s).2) := by
  show (a.andThen (onResult k)).run held s = _
  rw [run_andThen]
  cases (a.run held s).1 <;> rfl

theorem Activity.run_bind_ok {σ α β : Type} {a : Activity σ α} {k : α → Activity σ β}
    {held : Bool} {s s' : σ} {x : α} (h : a.run held s = (.ok x, s')) :
    (a >>= k).run held s = (k x).run held s' := by
  rw [run_bind, h]

/-! ## Work -/

/-- What programs work on, and the session with something else in its place. -/
def Session.inner (s : Session) : Workspace := Session.workspace.get s

/-- The session with another workspace. -/
def Session.withInner (s : Session) (w : Workspace) : Session := Session.workspace.put w s

@[simp]
theorem Session.inner_withInner (s : Session) (w : Workspace) : (s.withInner w).inner = w := rfl

@[simp]
theorem Session.engine_withInner (s : Session) (w : Workspace) :
    (s.withInner w).engine = w.engine := rfl

/-- The session after a note on the rows of a table that are not used. -/
def Session.noting (s : Session) : Option Table → Session
  | none => s
  | some t => { s with machine := s.machine.noteUnusedRows t }

@[simp]
theorem Session.engine_noting (s : Session) (params : Option Table) :
    (s.noting params).engine = s.engine := by
  cases params <;> rfl

/-- The arguments of a call with a table or without one. -/
def Table.argumentsIn : Option Table → Except Fault (List Value)
  | none => .ok []
  | some t => t.arguments

/-- A table that gives arguments has a first row that can be used. -/
theorem Table.argumentRow_of_arguments {t : Table} {args : List Value}
    (h : t.arguments = .ok args) : ∃ row, t.argumentRow = .ok row := by
  unfold arguments at h
  cases found : t.argumentRow with
  | ok row => exact ⟨row, rfl⟩
  | error fault => rw [found] at h; cases h

namespace Work

variable {α β : Type}

/-- How work ends, and the session that it leaves. -/
def exec (w : Work α) (s : Session) : Except Failure α × Session := w.run.run s

@[simp]
theorem exec_pure (a : α) (s : Session) : (pure a : Work α).exec s = (.ok a, s) := rfl

@[simp]
theorem exec_fail (e : HostError) (s : Session) :
    (fail e : Work α).exec s = (.error (.error e), s) := rfl

theorem exec_bind (w : Work α) (k : α → Work β) (s : Session) :
    (w >>= k).exec s =
      match (w.exec s).1 with
      | .ok a => (k a).exec (w.exec s).2
      | .error f => (.error f, (w.exec s).2) := by
  show (w.run >>= _).run s = _
  rw [Steps.run_bind]
  unfold exec
  cases (w.run.run s).1 <;> rfl

theorem exec_bind_ok {w : Work α} {k : α → Work β} {s s' : Session} {a : α}
    (h : w.exec s = (.ok a, s')) : (w >>= k).exec s = (k a).exec s' := by
  rw [exec_bind, h]

theorem exec_bind_error {w : Work α} {k : α → Work β} {s s' : Session} {f : Failure}
    (h : w.exec s = (.error f, s')) : (w >>= k).exec s = (.error f, s') := by
  rw [exec_bind, h]

@[simp]
theorem exec_ofExcept (r : Except HostError α) (s : Session) :
    (ofExcept r).exec s = (r.mapError .error, s) := by
  cases r <;> rfl

@[simp]
theorem exec_engine (s : Session) : engine.exec s = (.ok s.engine, s) := rfl

@[simp]
theorem exec_machine (s : Session) : machine.exec s = (.ok s.machine, s) := rfl

@[simp]
theorem exec_elapsed (s : Session) : elapsed.exec s = (.ok s.machine.clock.elapsed, s) := rfl

@[simp]
theorem exec_changeMachine (f : Machine → Machine) (s : Session) :
    (changeMachine f).exec s = (.ok (), { s with machine := f s.machine }) := rfl

@[simp]
theorem exec_changeEngine (f : Engine → Engine) (s : Session) :
    (changeEngine f).exec s = (.ok (), { s with engine := f s.engine }) := rfl

@[simp]
theorem exec_tell (level : Log.Level) (message : String) (s : Session) :
    (tell level message).exec s = (.ok (), { s with machine := s.machine.tell level message }) :=
  rfl

@[simp]
theorem exec_outcomeOf (r : Run α) (s : Session) :
    (outcomeOf r).exec s = (.ok (r.exec s.inner).1, s.withInner (r.exec s.inner).2) := by
  show ((r.run.on Session.workspace) >>= _).run s = _
  rw [Steps.run_bind, Steps.run_on]
  rfl

@[simp]
theorem exec_ofRun (toError : Raised → HostError) (r : Run α) (s : Session) :
    (ofRun toError r).exec s =
      ((r.exec s.inner).1.mapError fun e => .error (toError e),
        s.withInner (r.exec s.inner).2) := by
  rw [ofRun, exec_bind_ok (exec_outcomeOf r s), exec_ofExcept]
  cases (r.exec s.inner).1 <;> rfl

theorem exec_releasing (home : Home) (w : Work α) (s : Session) :
    (releasing home w).exec s =
      ((w.exec s).1, { (w.exec s).2 with engine := (w.exec s).2.engine.release home }) :=
  run_releasing home w s

end Work

/-! ## Operations -/

/-- The process with another session. -/
def Embedding.withSession (p : Embedding) (session : Session) : Embedding := { p with session }

/-- What comes of work with the session of a process. -/
def Embedding.does {α : Type} (p : Embedding) (w : Work α) : Except Failure α × Embedding :=
  ((w.exec p.session).1, p.withSession (w.exec p.session).2)

/-- The process after a note on the rows of a table that are not used. -/
def Embedding.noting (p : Embedding) (params : Option Table) : Embedding :=
  p.withSession (p.session.noting params)

/-- With the lock free and the interpreter ready, the lock makes no difference. -/
theorem Op.run_locked {α : Type} (w : Work α) {p : Embedding} (ready : p.initialized.isSome) :
    (locked (ofWork w)).run false p = p.does w := by
  obtain ⟨i, recorded⟩ := Option.isSome_iff_exists.mp ready
  rw [run_locked_of_some _ false p recorded, exclusive, run_guarded_of_free, run_ofWork]
  rfl

namespace Host

open Op

/-- What is done with the session to call a function of a source. -/
def scriptWork (source : Source) (function : String) (params : Option Table) (t : HostType) :
    Work t.Carrier := do
  let v ← Scope.callNamed source function params
  .tell .debug
    ("Script function '" ++ function ++ "' returned " ++ v.typeName ++ " in "
      ++ (← Work.elapsed))
  .ofExcept (convert t v)

/-- What is done with the session to call a function of a script. -/
def fileWork (script : Script) (function : String) (params : Option Table) (t : HostType) :
    Work t.Carrier := do
  .extendPath script.searchEntry
  let v ← callModule script.moduleName function params
  .ofExcept (convert t v)

theorem run_checkParams {params : Option Table} {args : List Value}
    (usable : Table.argumentsIn params = .ok args) (held : Bool) (p : Embedding) :
    (checkParams params).run held p = (.ok (), p.noting params) := by
  cases params with
  | none => rfl
  | some t =>
    obtain ⟨row, found⟩ := Table.argumentRow_of_arguments usable
    rw [checkParams, Activity.run_bind_ok (run_ofWork _ held p), found]
    rfl

theorem checkFunction_of_not_blank {function : String} (h : Text.isAllBlank function = false) :
    checkFunction function = .ok () := by
  rw [checkFunction, h]
  rfl

theorem run_callFile (h : Host) {path function : String} {params : Option Table} (t : HostType)
    {p : Embedding} {script : Script} {args : List Value} (ready : p.initialized.isSome)
    (accepted : Script.ofPath p.session.machine.home? path = .ok script)
    (named : Text.isAllBlank function = false) (usable : Table.argumentsIn params = .ok args) :
    (h.callFile path function params t).run false p =
      (p.noting params).does (fileWork script function params t) := by
  have found : (scriptAt path).run false p = (.ok script, p) := by
    show (Op.ofExcept ((Script.ofPath p.session.machine.home? path).mapError _)).run false p = _
    rw [accepted]
    rfl
  rw [callFile, Activity.run_bind_ok found, checkFunction_of_not_blank named]
  exact (Activity.run_bind_ok (run_checkParams usable false p)).trans (run_locked _ ready)

end Host

end EmbeddedPython
