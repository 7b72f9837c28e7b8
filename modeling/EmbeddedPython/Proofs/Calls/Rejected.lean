import EmbeddedPython.Proofs.Lifetime.Conduct
import EmbeddedPython.Proofs.Marshal.Arguments

/-!
# Calls that are rejected

What is wrong with the arguments of a call, or with the script that it names, is
found before the lock is asked for, and it is found by a look at the machine
alone.  So a call that is rejected leaves the interpreter as it was, and it is
rejected in the same way whether there is an interpreter or not and whoever holds
the lock.

* `Activity.beforeLock` is the end of an activity that never asks for the lock.
* `Op.RejectsFirst` says that only a look at the machine decides about a
  rejection.  There is one lemma for each way to put operations together.
* `Work.Accepts` says that work with the lock never ends in a rejection, even
  though it looks at the table of arguments once more.
-/

namespace EmbeddedPython

/-! ## Rejections -/

/-- Something is wrong with the arguments of a call, or with the file that they
name. -/
def HostError.IsRejection : HostError → Prop
  | configuration _ | marshal _ | io _ => True
  | _ => False

/-- The end in a rejection. -/
def Failure.IsRejection : Failure → Prop
  | error e => e.IsRejection
  | panic _ => False

namespace Activity

variable {σ α β : Type}

/-- The end of an activity, and the state it leaves, if it comes to an end before
it asks for the lock. -/
def beforeLock : Activity σ α → σ → Option (Except Failure α × σ)
  | ends r, s => some (r, s)
  | step change next, s => (next s).beforeLock (change s)
  | guarded _ _ _, _ => none

/-- Then it does not matter who holds the lock. -/
theorem run_of_beforeLock {a : Activity σ α} {s : σ} {x : Except Failure α × σ}
    (h : a.beforeLock s = some x) (held : Bool) : a.run held s = x := by
  induction a generalizing s with
  | ends r => exact Option.some.inj h
  | step change next ih => exact ih s h
  | guarded purpose body next => cases h

end Activity

/-! ## Work that accepts its arguments -/

namespace Work

variable {α β : Type}

/-- Work that never ends in a rejection. -/
abbrev Accepts (w : Work α) : Prop := w.Fails fun f => ¬f.IsRejection

theorem accepts_ofExcept {r : Except HostError α} (h : ∀ e, r = .error e → ¬e.IsRejection) :
    (ofExcept r).Accepts := fails_ofExcept h

theorem accepts_ofRun {toError : Raised → HostError} (h : ∀ e, ¬(toError e).IsRejection)
    (r : Run α) : (ofRun toError r).Accepts := by
  have ended : (outcomeOf r).Accepts := by
    refine Steps.Ends.bind (Steps.ends_of_all (Q := fun _ => True) (fun _ => trivial) _) ?_
    exact fun _ _ => .done (.ok _)
  refine ended.bind fun outcome => accepts_ofExcept fun e he => ?_
  cases outcome with
  | ok a => cases he
  | error raised => exact Except.error.inj he ▸ h raised

theorem Fails.releasing {Kind : Failure → Prop} {w : Work α} (h : w.Fails Kind) (home : Home) :
    (releasing home w).Fails Kind :=
  Steps.Ends.bind h fun _ hr => .step fun _ => .done hr

/-- A table whose first row can be used is not rejected when the row is used. -/
theorem accepts_argumentsOf {params : Option Table}
    (h : ∀ t ∈ params, ∃ row, t.argumentRow = .ok row) : (argumentsOf params).Accepts := by
  cases params with
  | none => exact fails_pure _
  | some t =>
    obtain ⟨row, accepted⟩ := h t rfl
    refine (fails_changeMachine _).bind fun _ => accepts_ofExcept fun e he => ?_
    rw [Table.converted_eq, Table.arguments, accepted] at he
    cases he

end Work

namespace Scope

open Work

theorem accepts_create (name : String) : (create name).Accepts := accepts_ofRun (fun _ => id) _

theorem accepts_within {α : Type} (name : String) {w : Scope → Work α}
    (h : ∀ scope, (w scope).Accepts) : (within name w).Accepts :=
  (accepts_create name).bind fun scope => (h scope).releasing scope.home

theorem compile_error {source : Source} {name : String} {e : HostError}
    (h : compile source name = .error e) : ∃ message, e = .compilation name message := by
  unfold compile at h
  split at h
  · exact ⟨_, (Except.error.inj h).symm⟩
  · split at h
    · cases h
    · exact ⟨_, (Except.error.inj h).symm⟩

theorem accepts_run (scope : Scope) (source : Source) : (scope.run source).Accepts := by
  refine (accepts_ofExcept fun e he => ?_).bind fun _ => accepts_ofRun (fun _ => id) _
  obtain ⟨message, rfl⟩ := compile_error he
  exact id

theorem accepts_importScope (scope other : Scope) (localName : String) :
    (scope.importScope other localName).Accepts :=
  fails_engine.bind fun _ => accepts_ofRun (fun _ => id) _

theorem accepts_call (scope : Scope) (localName function : String) (args : List Value) :
    (scope.call localName function args).Accepts := by
  refine (fails_engine.bind fun _ => fails_pure _).bind fun found => ?_
  cases found with
  | none => exact .done (.error id)
  | some module => exact accepts_ofRun (fun _ => id) _

theorem accepts_execute (source : Source) (name : Option String) :
    (execute source name).Accepts :=
  accepts_within _ fun scope => (fails_tell _ _).bind fun _ => accepts_run scope source

theorem accepts_callNamed (definition : Source) (function : String) {params : Option Table}
    (h : ∀ t ∈ params, ∃ row, t.argumentRow = .ok row) :
    (callNamed definition function params).Accepts :=
  accepts_within _ fun definitions => (accepts_run definitions definition).bind fun _ =>
    accepts_within _ fun caller => (accepts_importScope caller definitions _).bind fun copy =>
      Fails.releasing ((accepts_argumentsOf h).bind fun args =>
        (fails_tell _ _).bind fun _ => accepts_call caller _ function args) copy

end Scope

namespace Work

theorem accepts_importModule (name : String) : (importModule name).Accepts :=
  accepts_ofRun (fun _ => id) _

theorem accepts_extendPath (entry : String) : (extendPath entry).Accepts :=
  (fails_changeEngine _).bind fun _ => fails_tell _ _

end Work

namespace Host

open Work

theorem accepts_convert (t : HostType) (v : Value) : (ofExcept (convert t v)).Accepts := by
  refine accepts_ofExcept fun e he => ?_
  unfold convert at he
  cases read : t.read v with
  | ok a => rw [read] at he; cases he
  | error misfit =>
    rw [read] at he
    obtain rfl := Except.error.inj he
    cases misfit <;> exact id

theorem accepts_callModule (name function : String) {params : Option Table}
    (h : ∀ t ∈ params, ∃ row, t.argumentRow = .ok row) :
    (callModule name function params).Accepts :=
  (fails_tell _ _).bind fun _ => (accepts_importModule name).bind fun _ =>
    (accepts_ofRun (fun _ => id) _).bind fun _ => (accepts_argumentsOf h).bind fun _ =>
      (accepts_ofRun (fun _ => id) _).bind fun v => fails_elapsed.bind fun _ =>
        (fails_tell _ _).bind fun _ => fails_pure v

end Host

/-! ## Operations -/

namespace Embedding

/-- The process with a machine in place of the one it is on. -/
def onMachine (p : Embedding) (m : Machine) : Embedding :=
  { p with session := { p.session with machine := m } }

end Embedding

namespace Op

open Activity

variable {α β : Type}

/-- What the machine shows decides whether the operation ends in a rejection,
and up to there nothing but the machine is changed. -/
inductive RejectsFirst {α : Type} : Op α → Prop
  | ends (r : Except Failure α) : RejectsFirst (.ends r)
  | step (change : Machine → Machine) {next : Machine → Op α}
      (rest : ∀ m, RejectsFirst (next m)) :
      RejectsFirst (.step (fun p => p.onMachine (change p.session.machine))
        fun p => next p.session.machine)
  | accepts {op : Op α}
      (never : ∀ held p f, (op.run held p).1 = .error f → ¬f.IsRejection) : RejectsFirst op

/-- A rejection comes before the lock, and it is the same one in every process
on such a machine. -/
theorem RejectsFirst.rejected {op : Op α} (h : RejectsFirst op) {held : Bool} {p : Embedding}
    {f : Failure} (ends : (op.run held p).1 = .error f) (rejection : f.IsRejection) :
    ∃ m, ∀ q : Embedding, q.session.machine = p.session.machine →
      op.beforeLock q = some (.error f, q.onMachine m) := by
  induction h generalizing p with
  | ends r =>
    refine ⟨p.session.machine, fun q same => ?_⟩
    have ended : r = .error f := ends
    rw [beforeLock, ended, ← same]
    rfl
  | @step change next rest ih =>
    obtain ⟨m, early⟩ := ih p.session.machine ends
    refine ⟨m, fun q same => ?_⟩
    rw [beforeLock, same]
    exact early (q.onMachine (change p.session.machine)) rfl
  | accepts never => exact absurd rejection (never held p f ends)

theorem rejectsFirst_ofExcept_bind {r : Except HostError α} {k : α → Op β}
    (rest : ∀ a, RejectsFirst (k a)) : RejectsFirst (ofExcept r >>= k) := by
  cases r with
  | ok a => exact rest a
  | error e => exact .ends _

theorem rejectsFirst_machine_bind {k : Machine → Op β} (rest : ∀ m, RejectsFirst (k m)) :
    RejectsFirst (machine >>= k) :=
  .step id rest

theorem rejectsFirst_changeMachine_bind {f : Machine → Machine} {k : Unit → Op β}
    (rest : ∀ u, RejectsFirst (k u)) : RejectsFirst (changeMachine f >>= k) :=
  .step f fun _ => rest ()

/-- With the lock, work that accepts its arguments never ends in a rejection. -/
theorem rejectsFirst_locked {w : Work α} (accepts : w.Accepts) :
    RejectsFirst (locked (ofWork w)) := by
  refine .accepts fun held p f ends => ?_
  cases found : p.initialized with
  | none =>
    rw [run_locked_of_none _ held p found] at ends
    obtain rfl := Except.error.inj ends
    exact id
  | some i =>
    rw [run_locked_of_some _ held p found] at ends
    cases held with
    | true =>
      obtain rfl := Except.error.inj ends
      exact id
    | false =>
      have worked : (w.run.run p.session).1 = .error f := by
        rw [exclusive, run_guarded_of_free, run_ofWork] at ends
        exact ends
      exact accepts.run p.session f worked

theorem RejectsFirst.map {op : Op α} {g : α → β} (h : RejectsFirst op) :
    RejectsFirst (g <$> op) := by
  induction h with
  | ends r => cases r <;> exact .ends _
  | step change _ ih => exact .step change ih
  | @accepts op never =>
    refine .accepts fun held p f ends => never held p f ?_
    rw [show g <$> op = op.andThen (onResult (pure ∘ g)) from rfl, run_andThen] at ends
    cases ended : (op.run held p).1 with
    | ok a => rw [ended] at ends; cases ends
    | error f' => rw [ended] at ends; exact congrArg Except.error (Except.error.inj ends)

end Op

namespace Host

open Op Work

theorem rejectsFirst_scriptAt_bind {path : String} {β : Type} {k : Script → Op β}
    (rest : ∀ script, RejectsFirst (k script)) : RejectsFirst (scriptAt path >>= k) := by
  have next (m : Machine) : RejectsFirst (Op.ofExcept
      ((Script.ofPath m.home? path).mapError fun fault => .configuration (.script fault)) >>= k) :=
    rejectsFirst_ofExcept_bind rest
  exact .step id next

/-- Only with a table whose first row can be used does an operation go on behind
the check of its parameters. -/
theorem rejectsFirst_checkParams_bind {params : Option Table} {β : Type} {k : Unit → Op β}
    (rest : (∀ t ∈ params, ∃ row, t.argumentRow = .ok row) → RejectsFirst (k ())) :
    RejectsFirst (checkParams params >>= k) := by
  cases params with
  | none => exact rest fun _ h => nomatch h
  | some t =>
    have next : RejectsFirst
        ((Op.ofExcept (t.argumentRow.mapError .marshal) >>= fun _ => pure ()) >>= k) := by
      cases checked : t.argumentRow with
      | ok row =>
        refine rest fun u hu => ?_
        obtain rfl := Option.some.inj hu
        exact ⟨row, checked⟩
      | error fault => exact .ends _
    exact .step (·.noteUnusedRows t) fun _ => next

theorem rejectsFirst_runFile (h : Host) (path : String) : RejectsFirst (h.runFile path) :=
  rejectsFirst_scriptAt_bind fun _ => rejectsFirst_machine_bind fun _ =>
    rejectsFirst_ofExcept_bind fun source => rejectsFirst_changeMachine_bind fun _ =>
      rejectsFirst_locked ((accepts_extendPath _).bind fun _ => Scope.accepts_execute source _)

theorem rejectsFirst_callScript (h : Host) (source : Source) (function : String)
    (params : Option Table) (t : HostType) :
    RejectsFirst (h.callScript source function params t) :=
  rejectsFirst_ofExcept_bind fun _ => rejectsFirst_ofExcept_bind fun _ =>
    rejectsFirst_checkParams_bind fun accepted => rejectsFirst_locked
      ((Scope.accepts_callNamed source function accepted).bind fun v => fails_elapsed.bind fun _ =>
        (fails_tell _ _).bind fun _ => accepts_convert t v)

theorem rejectsFirst_callFile (h : Host) (path function : String) (params : Option Table)
    (t : HostType) : RejectsFirst (h.callFile path function params t) :=
  rejectsFirst_scriptAt_bind fun _ => rejectsFirst_ofExcept_bind fun _ =>
    rejectsFirst_checkParams_bind fun accepted => rejectsFirst_locked
      ((accepts_extendPath _).bind fun _ => (accepts_callModule _ function accepted).bind fun v =>
        accepts_convert t v)

end Host

/-! ## Calls that run programs -/

/-- A call that runs a source, a script, or a function of either. -/
def Call.RunsProgram : Call → Prop
  | .execute _ _ | .runFile _ | .callScript _ _ _ _ | .callFile _ _ _ _ => True
  | _ => False

theorem Call.rejectsFirst (h : Host) {call : Call} (runs : call.RunsProgram) :
    Op.RejectsFirst (call.op h) := by
  cases call with
  | execute source scope => exact (Op.rejectsFirst_locked (Scope.accepts_execute source scope)).map
  | runFile path => exact (Host.rejectsFirst_runFile h path).map
  | callScript source function params type =>
    exact (Host.rejectsFirst_callScript h source function params type).map
  | callFile path function params type =>
    exact (Host.rejectsFirst_callFile h path function params type).map
  | importModule _ | setPath _ | searchPath | refreshImports | initPip _ => exact runs.elim

/-- A call that is rejected came to its end before it asked for the lock, and all
it changed is the machine, where the log may have a note: no program was run, no
module was imported and the search path is what it was.  It is rejected in the
same way if there is no interpreter, and if the thread already holds the lock. -/
theorem rejected_before_lock (h : Host) (call : Call) (runs : call.RunsProgram) (held : Bool)
    (p : Embedding) (e : HostError) (rejection : e.IsRejection)
    (ends : ((call.op h).run held p).1 = .error (.error e)) :
    ∃ m : Machine, ∀ (held' : Bool) (initialized : Option Initialization),
      let q := { p with initialized }
      (call.op h).beforeLock q = some (.error (.error e), q.onMachine m) ∧
        (call.op h).run held' q = (.error (.error e), q.onMachine m) := by
  obtain ⟨m, early⟩ := (Call.rejectsFirst h runs).rejected ends rejection
  refine ⟨m, fun held' initialized => ?_⟩
  have ended := early { p with initialized } rfl
  exact ⟨ended, Activity.run_of_beforeLock ended held'⟩

namespace Rejection

/-- A process in which nothing happened yet. -/
def process : Embedding :=
  .start ⟨⟨[], []⟩, [], Log.initial, "", ⟨"", "", 0⟩⟩ ""

def host : Host := ⟨⟨⟨[]⟩, Engine.series⟩, .ofRoot ⟨[]⟩ none, none⟩

/-- Calls a function of a script with a text where the second column has
numbers. -/
def call : Call :=
  .callFile "jobs/report.py" "total"
    (some ⟨[⟨"name", .text⟩, ⟨"count", .int⟩], [[.null, .text "five"]]⟩) .int64

/-- The text in the second column. -/
def fault : Table.Fault := .mistyped "count" .int (.text "five")

end Rejection

/-- The table is looked at before anything else could go wrong: there is no
interpreter, there is no script, and the thread holds the lock. -/
theorem mistyped_cell_rejected_before_lock :
    ((Rejection.call.op Rejection.host).run true Rejection.process).1 =
        .error (.error (.marshal Rejection.fault)) ∧
      ∃ m : Machine, ∀ (held' : Bool) (initialized : Option Initialization),
        let q := { Rejection.process with initialized }
        (Rejection.call.op Rejection.host).beforeLock q =
            some (.error (.error (.marshal Rejection.fault)), q.onMachine m) ∧
          (Rejection.call.op Rejection.host).run held' q =
            (.error (.error (.marshal Rejection.fault)), q.onMachine m) := by
  have ends : ((Rejection.call.op Rejection.host).run true Rejection.process).1 =
      .error (.error (.marshal Rejection.fault)) := by rfl
  exact ⟨ends, rejected_before_lock Rejection.host Rejection.call trivial true Rejection.process
    (.marshal Rejection.fault) trivial ends⟩

end EmbeddedPython
