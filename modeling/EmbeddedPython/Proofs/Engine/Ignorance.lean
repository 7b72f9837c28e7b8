import EmbeddedPython.Proofs.Engine.Closure
import EmbeddedPython.Proofs.Files.Alike

/-!
# Programs do not see a log

Two workspaces are alike if they are the same but for what is in a log that is no
script.  Whatever programs do, they do the same on both, and leave them alike
(`isClosed_ignores`).
-/

namespace EmbeddedPython

/-- The same engine and clock, and files that differ in a log only. -/
structure Workspace.Alike (log : Option Location) (w v : Workspace) : Prop where
  files : w.files.Alike log v.files
  engine : w.engine = v.engine
  clock : w.clock = v.clock

theorem Workspace.Alike.change {log : Option Location} {w v : Workspace} (h : w.Alike log v)
    (f : Engine → Engine) :
    Workspace.Alike log { w with engine := f w.engine } { v with engine := f v.engine } :=
  ⟨h.files, congrArg f h.engine, h.clock⟩

/-- A log that is no script, if there is a log. -/
def FileSystem.Apart (log : Option Location) : Prop := ∀ at_, log = some at_ → ¬IsScript at_

namespace Run

variable {α β : Type} {log : Option Location}

/-- The work does the same on workspaces that are alike, and leaves them alike. -/
def Ignores (log : Option Location) (r : Run α) : Prop :=
  ∀ w v : Workspace, w.Alike log v →
    (r.exec w).1 = (r.exec v).1 ∧ (r.exec w).2.Alike log (r.exec v).2

theorem ignores_of_answer {r : Run α} {x : Except Raised α}
    (h : ∀ w, r.exec w = (x, w)) : r.Ignores log := by
  intro w v alike
  rw [h, h]
  exact ⟨rfl, alike⟩

theorem ignores_engine : engine.Ignores log := by
  intro w v alike
  exact ⟨congrArg Except.ok alike.engine, alike⟩

theorem ignores_change (f : Engine → Engine) : (change f).Ignores log :=
  fun _ _ alike => ⟨rfl, alike.change f⟩

theorem Ignores.bind {r : Run α} {k : α → Run β} (first : r.Ignores log)
    (second : ∀ a, (k a).Ignores log) : (r >>= k).Ignores log := by
  intro w v alike
  obtain ⟨same, after⟩ := first w v alike
  rw [exec_bind, exec_bind, ← same]
  cases (r.exec w).1 with
  | ok a => exact second a _ _ after
  | error e => exact ⟨rfl, after⟩

theorem ignores_allocate (ns : Namespace) : (allocate ns).Ignores log :=
  ignores_engine.bind fun _ => (ignores_change _).bind fun _ => ignores_of_answer fun _ => rfl

theorem ignores_log (severity : Severity) (message : String) :
    (Run.log severity message).Ignores log := by
  intro w v alike
  rw [exec_log, exec_log]
  refine ⟨rfl, ?_, alike.engine, alike.clock⟩
  unfold logged
  rw [← alike.engine, ← alike.clock]
  split
  · exact alike.files
  · split
    · exact alike.files
    · exact alike.files.record _ _ _

theorem ignores_writeFile (path text : String) : (writeFile path text).Ignores log := by
  intro w v alike
  rw [exec_writeFile, exec_writeFile]
  rcases alike.files.write (Path.ofText path) (Octets.ofText text) with
    ⟨fault, hw, hv⟩ | ⟨f, g, hw, hv, after⟩
  · rw [hw, hv]
    exact ⟨rfl, alike⟩
  · rw [hw, hv]
    exact ⟨rfl, after, alike.engine, alike.clock⟩

/-- The program of a module is in a script. -/
theorem ignores_load (apart : FileSystem.Apart log) {r : Reach} {name : String}
    {found : Finder.Finding} {fs : FileSystem} {directories : List Path} {tail : String}
    (program : ∀ home statements, (executeProgram r home statements).Ignores log)
    (finds : Finder.search fs directories tail = .ok (some found)) :
    (load r name found).Ignores log := by
  have read : (programOf found).Ignores log := by
    intro w v alike
    rw [exec_programOf, exec_programOf]
    refine ⟨?_, alike⟩
    unfold programIn
    split
    · rfl
    · next source =>
      have avoids : FileSystem.Alike.Avoids log w.files _ := fun at_ leads isLog =>
        apart at_ isLog (FileSystem.isScript_of_locate
          (FileSystem.scriptEnding_of_search finds source) leads)
      rw [alike.files.read avoids]
  intro w v alike
  have ran : (runFound r w.engine.fresh found).Ignores log :=
    read.bind fun statements => program w.engine.fresh statements
  obtain ⟨same, after⟩ := ran _ _ (alike.change fun e => starting e name found)
  rw [exec_load, exec_load, ← alike.engine] at *
  dsimp only
  rw [← same]
  split
  · exact ⟨rfl, after.change (·.finishLoading w.engine.fresh)⟩
  · exact ⟨rfl, after.change (·.abandonLoading name w.engine.fresh)⟩

theorem isClosed_ignores (apart : FileSystem.Apart log) :
    IsClosed (fun {_} r => Ignores log r) where
  value a := ignores_of_answer fun _ => rfl
  raised e := ignores_of_answer fun _ => rfl
  bind := Ignores.bind
  caught h w v alike := by
    rw [exec_outcome, exec_outcome]
    exact ⟨congrArg Except.ok (h w v alike).1, (h w v alike).2⟩
  looks := ignores_engine
  updates home f := ignores_change _
  emits v := ignores_change _
  logs := ignores_log
  writes := ignores_writeFile
  calling ns _ _ inner rest w v alike := by
    obtain ⟨same, after⟩ := inner w.engine.fresh _ _ (alike.change (·.allocate ns))
    rw [exec_calling, exec_calling, ← alike.engine] at *
    dsimp only
    rw [← same]
    exact rest _ _ _ (after.change (·.release w.engine.fresh))
  adds name names := (ignores_allocate names).bind fun _ => (ignores_change _).bind fun _ =>
    (ignores_change _).bind fun _ => ignores_of_answer fun _ => rfl
  loading program := by
    refine ignores_engine.bind fun e => ?_
    split
    · exact ignores_of_answer fun _ => rfl
    · intro w v alike
      rw [exec_bind, exec_bind, exec_search, exec_search, ← alike.files.search,
        ← alike.files.directoryOf]
      cases finds : Finder.search w.files _ _ with
      | error e => exact ⟨rfl, alike⟩
      | ok a =>
        cases a with
        | none => exact ⟨rfl, alike⟩
        | some found => exact ignores_load apart program finds w v alike

end Run

end EmbeddedPython
