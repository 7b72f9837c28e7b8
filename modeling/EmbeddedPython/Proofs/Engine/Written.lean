import EmbeddedPython.Proofs.Engine.Closure
import EmbeddedPython.Proofs.Files.Directories

/-!
# What programs do to files

Programs write files and send records to a log.  Neither changes a directory or
takes a file away (`FileSystem.Extends`), so a path leads to the same place before
and after a program (`FileSystem.Extends.locate` and `Run.isClosed_extends`).  The
clock is left alone (`Run.isClosed_keepsClock`).

Both are relations between workspaces that a program leads along because each of its
steps does (`Run.isClosed_leads`).
-/

namespace EmbeddedPython

namespace FileSystem

/-- The directories are the same, and the files are still files. -/
structure Extends (f g : FileSystem) : Prop where
  current : g.current = f.current
  directories : ∀ at_, g.node? at_ = some .directory ↔ f.node? at_ = some .directory
  files : ∀ at_ a, f.node? at_ = some (.file a) → ∃ b, g.node? at_ = some (.file b)

namespace Extends

variable {f g k : FileSystem}

theorem refl (f : FileSystem) : Extends f f := ⟨rfl, fun _ => Iff.rfl, fun _ a h => ⟨a, h⟩⟩

theorem trans (h : Extends f g) (h' : Extends g k) : Extends f k := by
  refine ⟨h'.current.trans h.current, fun at_ => (h'.directories at_).trans (h.directories at_),
    fun at_ a there => ?_⟩
  obtain ⟨b, still⟩ := h.files at_ a there
  exact h'.files at_ b still

/-- A path leads where it led. -/
theorem locate (h : Extends f g) {p : Path} {at_ : Location} (leads : f.locate p = .ok at_) :
    g.locate p = .ok at_ :=
  locate_of_directories h.current (fun at_ => (h.directories at_).2) leads

/-- A file is put where no directory is. -/
theorem set {p : Path} {at_ : Location} {old : Option File} (opens : f.openFile p = .ok (at_, old))
    (a : File) : Extends f (f.set at_ (.file a)) := by
  have free := (openFile_of_locate opens).2
  have rooted : at_ ≠ [] := by
    rintro rfl
    exact free rfl
  refine ⟨rfl, fun other => ?_, fun other b there => ?_⟩
  · by_cases same : other = at_
    · subst same
      rw [node?_set _ rooted]
      exact ⟨fun there => (nomatch there), fun there => absurd there free⟩
    · rw [node?_set_of_ne _ same]
  · by_cases same : other = at_
    · subst same
      exact ⟨a, node?_set _ rooted _⟩
    · exact ⟨b, (node?_set_of_ne _ same _).trans there⟩

theorem write {p : Path} {o : Octets} (h : f.write p o = .ok g) : Extends f g := by
  unfold FileSystem.write at h
  cases opens : f.openFile p with
  | error fault =>
    rw [opens] at h
    cases h
  | ok found =>
    rw [opens] at h
    obtain rfl := Except.ok.inj h
    exact set opens _

theorem record (f : FileSystem) (p : Path) (stamp : String) (r : Log.Record) :
    Extends f (f.record p stamp r) := by
  unfold FileSystem.record FileSystem.append
  cases opens : f.openFile p with
  | error fault => exact refl f
  | ok found => exact set opens _

end Extends

end FileSystem

namespace Run

variable {α β : Type}

/-! ## Relations that programs keep -/

/-- A relation between workspaces that does not see the engine, and that what programs
do to files is in. -/
structure IsKept (R : Workspace → Workspace → Prop) : Prop where
  refl (w : Workspace) : R w w
  trans {w v u : Workspace} (h : R w v) (h' : R v u) : R w u
  engines (w : Workspace) (engine : Engine) : R w { w with engine }
  writes (w : Workspace) {p : Path} {o : Octets} {files : FileSystem}
    (h : w.files.write p o = .ok files) : R w { w with files }
  records (w : Workspace) (p : Path) (stamp : String) (r : Log.Record) :
    R w { w with files := w.files.record p stamp r }

/-- The workspaces before and after work are in a relation. -/
def Leads (R : Workspace → Workspace → Prop) (r : Run α) : Prop := ∀ w, R w (r.exec w).2

section

variable {R : Workspace → Workspace → Prop} (kept : IsKept R)

include kept

theorem leads_of_engine {r : Run α} (h : ∀ w, ∃ engine, (r.exec w).2 = { w with engine }) :
    r.Leads R := by
  intro w
  obtain ⟨engine, same⟩ := h w
  rw [same]
  exact kept.engines w engine

theorem leads_bind {r : Run α} {k : α → Run β} (first : r.Leads R)
    (second : ∀ a, (k a).Leads R) : (r >>= k).Leads R := by
  intro w
  rw [exec_bind]
  split
  · exact kept.trans (first w) (second _ _)
  · exact first w

theorem leads_load {r : Reach} {name : String} {found : Finder.Finding}
    (program : ∀ home statements, (executeProgram r home statements).Leads R) :
    (load r name found).Leads R := by
  have ran (home : Home) : (runFound r home found).Leads R := by
    refine leads_bind kept (leads_of_engine kept fun w => ⟨w.engine, ?_⟩) (program home)
    rw [exec_programOf]
  intro w
  have after := kept.trans (kept.engines w (starting w.engine name found))
    (ran w.engine.fresh { w with engine := starting w.engine name found })
  rw [exec_load]
  dsimp only
  split <;> exact kept.trans after (kept.engines _ _)

/-- Every program leads from one workspace to another that is in the relation. -/
theorem isClosed_leads : IsClosed (fun {_} r => Leads R r) where
  value a := leads_of_engine kept fun w => ⟨w.engine, rfl⟩
  raised e := leads_of_engine kept fun w => ⟨w.engine, rfl⟩
  bind := leads_bind kept
  caught h w := by
    rw [exec_outcome]
    exact h w
  looks := leads_of_engine kept fun w => ⟨w.engine, rfl⟩
  updates home f := leads_of_engine kept fun _ => ⟨_, rfl⟩
  emits v := leads_of_engine kept fun _ => ⟨_, rfl⟩
  logs severity message w := by
    rw [exec_log]
    unfold logged
    split
    · exact kept.refl w
    · split
      · exact kept.refl w
      · exact kept.records w _ _ _
  writes path text w := by
    rw [exec_writeFile]
    split
    · next written => exact kept.writes w written
    · exact kept.refl w
  calling ns body k inner rest w := by
    have during := kept.trans (kept.engines w (w.engine.allocate ns))
      (inner w.engine.fresh { w with engine := w.engine.allocate ns })
    rw [exec_calling]
    generalize (body w.engine.fresh).exec { w with engine := w.engine.allocate ns } = ended at *
    exact kept.trans (kept.trans during (kept.engines _ _))
      (rest ended.1 { ended.2 with engine := ended.2.engine.release w.engine.fresh })
  adds name names := leads_of_engine kept fun _ => ⟨_, rfl⟩
  loading program := by
    refine leads_bind kept (leads_of_engine kept fun w => ⟨w.engine, rfl⟩) fun e => ?_
    split
    · exact leads_of_engine kept fun w => ⟨w.engine, rfl⟩
    · refine leads_bind kept (leads_of_engine kept fun w => ⟨w.engine, ?_⟩) fun found => ?_
      · rw [exec_search]
      · split
        · exact leads_load kept program
        · exact leads_of_engine kept fun w => ⟨w.engine, rfl⟩

end

/-! ## Files and the clock -/

/-- The files that work leaves have the directories and files that it found. -/
def Extends (r : Run α) : Prop := ∀ w : Workspace, w.files.Extends (r.exec w).2.files

/-- Work that leaves the clock as it is. -/
def KeepsClock (r : Run α) : Prop := ∀ w : Workspace, (r.exec w).2.clock = w.clock

theorem isClosed_keepsClock : IsClosed (fun {_} r => KeepsClock r) :=
  isClosed_leads (R := fun w v => v.clock = w.clock) {
    refl := fun _ => rfl
    trans := fun h h' => h'.trans h
    engines := fun _ _ => rfl
    writes := fun _ _ _ _ _ => rfl
    records := fun _ _ _ _ => rfl }

end Run

end EmbeddedPython
