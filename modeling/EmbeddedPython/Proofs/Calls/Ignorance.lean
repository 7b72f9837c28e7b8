import EmbeddedPython.Call
import EmbeddedPython.Proofs.Calls.Sessions
import EmbeddedPython.Proofs.Engine.Ignorance

/-!
# Calls do not see the log

Two processes are alike if they are the same but for what was echoed and for what
is in a log that is no script.  A call does the same on both and leaves them alike
(`Call.ignores`); only the package installer, which starts other programs, is left
out.
-/

namespace EmbeddedPython

variable {log : Option Location}

/-- The same settings and clock, and files that differ in a log only. -/
structure Machine.Alike (log : Option Location) (m n : Machine) : Prop where
  files : m.files.Alike log n.files
  environment : m.environment = n.environment
  settings : m.log = n.log
  clock : m.clock = n.clock

namespace Machine.Alike

variable {m n k : Machine}

theorem symm (h : m.Alike log n) : n.Alike log m :=
  ⟨h.files.symm, h.environment.symm, h.settings.symm, h.clock.symm⟩

theorem trans (h : m.Alike log n) (h' : n.Alike log k) : m.Alike log k :=
  ⟨h.files.trans h'.files, h.environment.trans h'.environment, h.settings.trans h'.settings,
    h.clock.trans h'.clock⟩

theorem record (h : m.Alike log n) (r : Log.Record) : (m.record r).Alike log (n.record r) := by
  unfold Machine.record
  rw [← h.settings, ← h.clock]
  split
  · exact h
  · exact ⟨h.files.record _ _ _, h.environment, rfl, rfl⟩

theorem tell (h : m.Alike log n) (level : Log.Level) (message : String) :
    (m.tell level message).Alike log (n.tell level message) := by
  have recorded := h.record (level.record message)
  unfold Machine.tell
  dsimp only
  rw [← recorded.settings]
  split
  · exact ⟨recorded.files, recorded.environment, rfl, recorded.clock⟩
  · exact recorded

theorem noteUnusedRows (h : m.Alike log n) (t : Table) :
    (m.noteUnusedRows t).Alike log (n.noteUnusedRows t) := by
  unfold Machine.noteUnusedRows
  split
  · exact h.tell _ _
  · exact h

end Machine.Alike

/-- The same engine, on machines that are alike. -/
structure Session.Alike (log : Option Location) (s t : Session) : Prop where
  machine : s.machine.Alike log t.machine
  engine : s.engine = t.engine

theorem Session.Alike.inner {s t : Session} (h : s.Alike log t) : s.inner.Alike log t.inner :=
  ⟨h.machine.files, h.engine, h.machine.clock⟩

theorem Session.Alike.withInner {s t : Session} (h : s.Alike log t) {w v : Workspace}
    (h' : w.Alike log v) : (s.withInner w).Alike log (t.withInner v) :=
  ⟨⟨h'.files, h.machine.environment, h.machine.settings, h'.clock⟩, h'.engine⟩

/-! ## Work -/

namespace Work

variable {α β : Type}

/-- The work does the same in sessions that are alike, and leaves them alike. -/
def Ignores (log : Option Location) (w : Work α) : Prop :=
  ∀ s t : Session, s.Alike log t →
    (w.exec s).1 = (w.exec t).1 ∧ (w.exec s).2.Alike log (w.exec t).2

theorem ignores_ofExcept (r : Except HostError α) : (ofExcept r).Ignores log := by
  intro s t alike
  rw [exec_ofExcept, exec_ofExcept]
  exact ⟨rfl, alike⟩

theorem ignores_pure (a : α) : (pure a : Work α).Ignores log := fun _ _ alike => ⟨rfl, alike⟩

theorem Ignores.bind {w : Work α} {k : α → Work β} (first : w.Ignores log)
    (second : ∀ a, (k a).Ignores log) : (w >>= k).Ignores log := by
  intro s t alike
  obtain ⟨same, after⟩ := first s t alike
  rw [exec_bind, exec_bind, ← same]
  cases (w.exec s).1 with
  | ok a => exact second a _ _ after
  | error f => exact ⟨rfl, after⟩

theorem ignores_engine : engine.Ignores log :=
  fun _ _ alike => ⟨congrArg Except.ok alike.engine, alike⟩

theorem ignores_elapsed : elapsed.Ignores log := by
  intro s t alike
  rw [exec_elapsed, exec_elapsed, alike.machine.clock]
  exact ⟨rfl, alike⟩

theorem ignores_changeMachine {f : Machine → Machine}
    (h : ∀ m n : Machine, m.Alike log n → (f m).Alike log (f n)) : (changeMachine f).Ignores log :=
  fun _ _ alike => ⟨rfl, h _ _ alike.machine, alike.engine⟩

theorem ignores_changeEngine (f : Engine → Engine) : (changeEngine f).Ignores log :=
  fun _ _ alike => ⟨rfl, alike.machine, congrArg f alike.engine⟩

theorem ignores_tell (level : Log.Level) (message : String) : (tell level message).Ignores log :=
  ignores_changeMachine fun _ _ alike => alike.tell level message

theorem ignores_ofRun (toError : Raised → HostError) {r : Run α} (h : r.Ignores log) :
    (ofRun toError r).Ignores log := by
  intro s t alike
  obtain ⟨same, after⟩ := h _ _ alike.inner
  rw [exec_ofRun, exec_ofRun, same]
  exact ⟨rfl, alike.withInner after⟩

theorem Ignores.releasing {w : Work α} (h : w.Ignores log) (home : Home) :
    (releasing home w).Ignores log := by
  intro s t alike
  obtain ⟨same, after⟩ := h s t alike
  rw [exec_releasing, exec_releasing]
  exact ⟨same, after.machine, congrArg (·.release home) after.engine⟩

theorem ignores_argumentsOf (params : Option Table) : (argumentsOf params).Ignores log := by
  cases params with
  | none => exact ignores_pure _
  | some t =>
    exact (ignores_changeMachine fun _ _ alike => alike.noteUnusedRows t).bind fun _ =>
      ignores_ofExcept _

end Work

section Operations

variable (apart : FileSystem.Apart log)

include apart

namespace Scope

open Work

theorem ignores_within {α : Type} (name : String) {w : Scope → Work α}
    (h : ∀ scope, (w scope).Ignores log) : (within name w).Ignores log :=
  (ignores_ofRun _ ((Run.isClosed_ignores apart).bind (Run.ignores_allocate _) fun _ =>
    Run.ignores_of_answer fun _ => rfl)).bind fun scope => (h scope).releasing scope.home

theorem ignores_run (scope : Scope) (source : Source) : (scope.run source).Ignores log := by
  refine (ignores_ofExcept _).bind fun program => ignores_ofRun _ ?_
  have everywhere : scope.bindEverywhere.Ignores log := by
    refine Run.ignores_engine.bind fun e => ?_
    split
    · exact Run.ignores_change _
    · exact Run.ignores_of_answer fun _ => rfl
  exact everywhere.bind fun _ => (Run.isClosed_ignores apart).runProgram _ program

theorem ignores_importScope (scope other : Scope) (localName : String) :
    (scope.importScope other localName).Ignores log :=
  ignores_engine.bind fun _ => ignores_ofRun _ <|
    ((Run.isClosed_ignores apart).ofExcept _).bind fun _ => (Run.ignores_allocate _).bind fun _ =>
      (Run.ignores_change _).bind fun _ => Run.ignores_of_answer fun _ => rfl

theorem ignores_call (scope : Scope) (localName function : String) (args : List Value) :
    (scope.call localName function args).Ignores log := by
  refine (ignores_engine.bind fun _ => ignores_pure _).bind fun found => ?_
  split
  · exact ignores_ofExcept (.error _)
  · exact ignores_ofRun _ <| ((Run.isClosed_ignores apart).attributeOf _ function).bind fun f =>
      (Run.isClosed_ignores apart).call f args

theorem ignores_execute (source : Source) (name : Option String) :
    (execute source name).Ignores log :=
  ignores_within apart _ fun scope => (ignores_tell _ _).bind fun _ =>
    ignores_run apart scope source

theorem ignores_callNamed (definition : Source) (function : String) (params : Option Table) :
    (callNamed definition function params).Ignores log :=
  ignores_within apart _ fun definitions => (ignores_run apart definitions definition).bind
    fun _ => ignores_within apart _ fun caller =>
      (ignores_importScope apart caller definitions _).bind fun copy =>
        Ignores.releasing ((ignores_argumentsOf params).bind fun args => (ignores_tell _ _).bind
          fun _ => ignores_call apart caller _ function args) copy

end Scope

namespace Host

open Work

theorem ignores_importModule (name : String) : (Work.importModule name).Ignores log :=
  ignores_ofRun _ ((Run.isClosed_ignores apart).importModule name)

theorem ignores_callModule (name function : String) (params : Option Table) :
    (callModule name function params).Ignores log :=
  (ignores_tell _ _).bind fun _ => (ignores_importModule apart name).bind fun _ =>
    (ignores_ofRun _ ((Run.isClosed_ignores apart).attributeOf _ function)).bind fun f =>
      (ignores_argumentsOf params).bind fun args =>
        (ignores_ofRun _ ((Run.isClosed_ignores apart).call f args)).bind fun v =>
          ignores_elapsed.bind fun _ => (ignores_tell _ _).bind fun _ => ignores_pure v

omit apart in
theorem ignores_extendPath (entry : String) : (extendPath entry).Ignores log :=
  (ignores_changeEngine _).bind fun _ => ignores_tell _ _

end Host

end Operations

/-! ## Scripts -/

namespace Script

theorem scriptEnding_ofText {text : String} (h : ending <:+ text.toList) :
    FileSystem.scriptEnding <:+ (Path.ofText text).octets := by
  obtain ⟨front, whole⟩ := h
  refine ⟨front.flatMap Octets.encodeChar, ?_⟩
  rw [Path.ofText, Octets.ofText, ← whole, List.flatMap_append]
  rfl

/-- What is behind a tilde and a slash has the ending of the whole. -/
theorem ending_of_behind {c : Char} {rest : List Char} (other : c ≠ '.')
    (h : ending <:+ '~' :: c :: rest) : ending <:+ rest := by
  rcases List.suffix_cons_iff.1 h with same | h
  · exact absurd same (by simp [ending])
  · rcases List.suffix_cons_iff.1 h with same | h
    · exact absurd (List.cons.inj same).1.symm other
    · exact h

theorem scriptEnding_join {p q : Path} (h : FileSystem.scriptEnding <:+ q.octets) :
    FileSystem.scriptEnding <:+ (p / q).octets := by
  show _ <:+ (p.join q).octets
  unfold Path.join
  split
  · exact h
  · split
    · exact h.trans (List.suffix_append _ _)
    · exact (h.trans (List.suffix_cons _ _)).trans (List.suffix_append _ _)

theorem scriptEnding_expandHome (home : Option Path) {path : String}
    (h : ending <:+ path.toList) : FileSystem.scriptEnding <:+ (expandHome home path).octets := by
  unfold expandHome
  split
  · next rest home behind =>
    refine scriptEnding_join (scriptEnding_ofText ?_)
    rw [String.toList_ofList]
    unfold behindTilde? at behind
    split at behind
    · next alone => exact absurd (alone ▸ h) (by decide)
    · next whole =>
      obtain rfl := Option.some.inj behind
      exact ending_of_behind (by decide) (whole ▸ h)
    · next whole =>
      obtain rfl := Option.some.inj behind
      exact ending_of_behind (by decide) (whole ▸ h)
    · cases behind
  · exact scriptEnding_ofText h

/-- The file of a script has the ending of scripts. -/
theorem scriptEnding_of_accepted {home : Option Path} {path : String} {script : Script}
    (accepted : ofPath home path = .ok script) :
    FileSystem.scriptEnding <:+ script.file.octets := by
  unfold ofPath at accepted
  split at accepted
  · cases accepted
  · split at accepted
    · cases accepted
    · next _ ends =>
      have h : ending <:+ path.toList := by
        rw [Bool.not_eq_true, Bool.not_eq_false'] at ends
        exact List.isSuffixOf_iff_suffix.1 ends
      split at accepted
      · next found =>
        obtain rfl := Except.ok.inj accepted
        unfold ofFile? at found
        split at found
        · split at found
          · obtain rfl := Option.some.inj found
            exact scriptEnding_expandHome home h
          · cases found
        · cases found
      · cases accepted

end Script

/-! ## Operations -/

/-- The same interpreter and libraries, with sessions that are alike. -/
structure Embedding.Alike (log : Option Location) (p q : Embedding) : Prop where
  session : p.session.Alike log q.session
  initialized : p.initialized = q.initialized
  libraries : p.libraries = q.libraries

namespace Op

variable {α β : Type}

/-- The operation does the same in processes that are alike, and leaves them
alike. -/
def Ignores (log : Option Location) (op : Op α) : Prop :=
  ∀ (held : Bool) (p q : Embedding), p.Alike log q →
    (op.run held p).1 = (op.run held q).1 ∧ (op.run held p).2.Alike log (op.run held q).2

theorem ignores_ends (r : Except Failure α) : Ignores log (.ends r) :=
  fun _ _ _ alike => ⟨rfl, alike⟩

theorem ignores_ofExcept (r : Except HostError α) : Ignores log (ofExcept r) := by
  cases r <;> exact ignores_ends _

theorem Ignores.bind {op : Op α} {k : α → Op β} (first : Ignores log op)
    (second : ∀ a, Ignores log (k a)) : Ignores log (op >>= k) := by
  intro held p q alike
  obtain ⟨same, after⟩ := first held p q alike
  rw [Activity.run_bind, Activity.run_bind, ← same]
  cases (op.run held p).1 with
  | ok a => exact second a _ _ _ after
  | error f => exact ⟨rfl, after⟩

theorem Ignores.map {op : Op α} {g : α → β} (h : Ignores log op) : Ignores log (g <$> op) :=
  h.bind fun a => ignores_ends (.ok (g a))

theorem ignores_ofWork {w : Work α} (h : w.Ignores log) : Ignores log (ofWork w) := by
  intro held p q alike
  obtain ⟨same, after⟩ := h _ _ alike.session
  rw [run_ofWork, run_ofWork]
  exact ⟨same, after, alike.initialized, alike.libraries⟩

/-- Whether there is an interpreter, and who holds the lock, is the same. -/
theorem ignores_locked {w : Work α} (h : w.Ignores log) : Ignores log (locked (ofWork w)) := by
  intro held p q alike
  cases found : p.initialized with
  | none =>
    rw [run_locked_of_none _ held p found,
      run_locked_of_none _ held q (alike.initialized.symm.trans found)]
    exact ⟨rfl, alike⟩
  | some i =>
    rw [run_locked_of_some _ held p found,
      run_locked_of_some _ held q (alike.initialized.symm.trans found)]
    cases held with
    | true => exact ⟨rfl, alike⟩
    | false =>
      rw [exclusive, run_guarded_of_free, run_guarded_of_free]
      exact ignores_ofWork h true p q alike

end Op

namespace Host

open Op

theorem ignores_checkParams (params : Option Table) : Op.Ignores log (checkParams params) := by
  cases params with
  | none => exact ignores_ends _
  | some t =>
    exact (ignores_ofWork (Work.ignores_changeMachine fun _ _ alike =>
      alike.noteUnusedRows t)).bind fun _ => (ignores_ofExcept _).bind fun _ => ignores_ends _

/-- A script is named by the settings alone. -/
theorem ignores_scriptAt_bind {β : Type} {path : String} {k : Script → Op β}
    (rest : ∀ script home, Script.ofPath home path = .ok script → Op.Ignores log (k script)) :
    Op.Ignores log (scriptAt path >>= k) := by
  have named (held : Bool) (p : Embedding) : (scriptAt path >>= k).run held p =
      (Op.ofExcept ((Script.ofPath p.session.machine.home? path).mapError fun fault =>
        .configuration (.script fault)) >>= k).run held p := rfl
  intro held p q alike
  have home : p.session.machine.home? = q.session.machine.home? := by
    unfold Machine.home? Machine.environment?
    rw [alike.session.machine.environment]
  rw [named, named, ← home]
  cases found : Script.ofPath p.session.machine.home? path with
  | error fault => exact ⟨rfl, alike⟩
  | ok script => exact rest script _ found held p q alike

end Host

/-- A call without the package installer, which starts other programs. -/
def Call.StaysInside : Call → Prop
  | .initPip _ => False
  | _ => True

theorem Host.ignores_runFile (apart : FileSystem.Apart log) (h : Host) (path : String) :
    Op.Ignores log (h.runFile path) := by
  refine ignores_scriptAt_bind fun script home accepted => ?_
  have ran (reading : Except FileFault Source) : Op.Ignores log (h.runRead script reading) :=
    (Op.ignores_ofExcept _).bind fun source => (Op.ignores_ofWork (Work.ignores_tell _ _)).bind
      fun _ => Op.ignores_locked ((ignores_extendPath _).bind fun _ =>
        Scope.ignores_execute apart source _)
  intro held p q alike
  -- The script is no log, so the same is read of it.
  have avoids : FileSystem.Alike.Avoids log p.session.machine.files script.file :=
    fun at_ leads isLog => apart at_ isLog
      (FileSystem.isScript_of_locate (Script.scriptEnding_of_accepted accepted) leads)
  have read : p.session.machine.files.readSource script.file =
      q.session.machine.files.readSource script.file := by
    unfold FileSystem.readSource
    rw [alike.session.machine.files.read avoids]
  show ((h.runRead script (p.session.machine.files.readSource script.file)).run held p).1 =
      ((h.runRead script (q.session.machine.files.readSource script.file)).run held q).1 ∧
    ((h.runRead script (p.session.machine.files.readSource script.file)).run held p).2.Alike log
      ((h.runRead script (q.session.machine.files.readSource script.file)).run held q).2
  rw [← read]
  exact ran _ held p q alike

theorem Call.ignores (apart : FileSystem.Apart log) (h : Host) {call : Call}
    (inside : call.StaysInside) : Op.Ignores log (call.op h) := by
  cases call with
  | importModule name =>
    exact .map <| Op.ignores_locked <| (Host.ignores_importModule apart name).bind fun _ =>
      Work.ignores_elapsed.bind fun _ => Work.ignores_tell _ _
  | setPath entry => exact .map <| Op.ignores_locked (Host.ignores_extendPath entry)
  | searchPath =>
    exact .map <| Op.ignores_locked (Work.ignores_engine.bind fun _ => Work.ignores_pure _)
  | refreshImports => exact .map <| Op.ignores_locked (Work.ignores_tell _ _)
  | execute source scope =>
    exact .map <| Op.ignores_locked (Scope.ignores_execute apart source scope)
  | runFile path => exact .map <| Host.ignores_runFile apart h path
  | callScript source function params type =>
    exact .map <| (Op.ignores_ofExcept _).bind fun _ => (Op.ignores_ofExcept _).bind fun _ =>
      (Host.ignores_checkParams params).bind fun _ => Op.ignores_locked <|
        (Scope.ignores_callNamed apart source function params).bind fun v =>
          Work.ignores_elapsed.bind fun _ => (Work.ignores_tell _ _).bind fun _ =>
            Work.ignores_ofExcept _
  | callFile path function params type =>
    exact .map <| Host.ignores_scriptAt_bind fun script _ _ => (Op.ignores_ofExcept _).bind fun _ =>
      (Host.ignores_checkParams params).bind fun _ => Op.ignores_locked <|
        (Host.ignores_extendPath _).bind fun _ =>
          (Host.ignores_callModule apart _ function params).bind fun v => Work.ignores_ofExcept _
  | initPip launch => exact inside.elim

end EmbeddedPython
