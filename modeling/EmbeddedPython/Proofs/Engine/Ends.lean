import EmbeddedPython.Engine.Import

/-!
# Ends of work of the interpreter

`Run.exec` is how a piece of work ends while nobody else works on the workspace,
and what it leaves there.  There is one lemma for each way to put work together,
and one for each piece of work that comes with what belongs around it: a
namespace for as long as a call lasts (`exec_calling`), and a module that is gone
again if its program raises (`exec_load`).
-/

namespace EmbeddedPython.Run

variable {α β : Type}

/-- How work ends, and the workspace that it leaves. -/
def exec (r : Run α) (w : Workspace) : Except Raised α × Workspace := r.run.run w

@[simp]
theorem exec_pure (a : α) (w : Workspace) : (pure a : Run α).exec w = (.ok a, w) := rfl

@[simp]
theorem exec_throw (e : Raised) (w : Workspace) : (throw e : Run α).exec w = (.error e, w) := rfl

theorem exec_bind (r : Run α) (k : α → Run β) (w : Workspace) :
    (r >>= k).exec w =
      match (r.exec w).1 with
      | .ok a => (k a).exec (r.exec w).2
      | .error e => (.error e, (r.exec w).2) := by
  show (r.run >>= _).run w = _
  rw [Steps.run_bind]
  unfold exec
  cases (r.run.run w).1 <;> rfl

theorem exec_bind_ok {r : Run α} {k : α → Run β} {w w' : Workspace} {a : α}
    (h : r.exec w = (.ok a, w')) : (r >>= k).exec w = (k a).exec w' := by
  rw [exec_bind, h]

theorem exec_bind_error {r : Run α} {k : α → Run β} {w w' : Workspace} {e : Raised}
    (h : r.exec w = (.error e, w')) : (r >>= k).exec w = (.error e, w') := by
  rw [exec_bind, h]

@[simp]
theorem exec_bind_pure (r : Run α) (w : Workspace) : (r >>= pure).exec w = r.exec w := by
  rw [exec_bind]
  obtain ⟨x, after⟩ := r.exec w
  cases x <;> rfl

@[simp]
theorem exec_engine (w : Workspace) : engine.exec w = (.ok w.engine, w) := rfl

@[simp]
theorem exec_files (w : Workspace) : files.exec w = (.ok w.files, w) := rfl

@[simp]
theorem exec_change (f : Engine → Engine) (w : Workspace) :
    (change f).exec w = (.ok (), { w with engine := f w.engine }) := rfl

@[simp]
theorem exec_allocate (ns : Namespace) (w : Workspace) :
    (allocate ns).exec w = (.ok w.engine.fresh, { w with engine := w.engine.allocate ns }) := rfl

@[simp]
theorem exec_ofExcept (x : Except Raised α) (w : Workspace) : (ofExcept x).exec w = (x, w) := by
  cases x <;> rfl

@[simp]
theorem exec_outcome (r : Run α) (w : Workspace) :
    (outcome r).exec w = (.ok (r.exec w).1, (r.exec w).2) := by
  show (r.run >>= _).run w = _
  rw [Steps.run_bind]
  rfl

theorem exec_tryCatch (r : Run α) (handler : Raised → Run α) (w : Workspace) :
    (tryCatch r handler).exec w =
      match (r.exec w).1 with
      | .ok a => (.ok a, (r.exec w).2)
      | .error e => (handler e).exec (r.exec w).2 := by
  show (r.run >>= _).run w = _
  rw [Steps.run_bind]
  unfold exec
  cases (r.run.run w).1 <;> rfl

/-- To go on after an exception is to go on after either outcome. -/
theorem tryCatch_eq (r : Run α) (handler : Raised → Run α) :
    tryCatch r handler = outcome r >>= fun x =>
      match x with
      | .ok a => pure a
      | .error e => handler e := by
  show (r.run >>= _) = ((r.run >>= _) >>= _)
  rw [Steps.bind_assoc]
  congr 1
  funext x
  cases x <;> rfl

@[simp]
theorem exec_search (entries : List String) (name : String) (w : Workspace) :
    (search entries name).exec w =
      (Finder.search w.files (entries.map (Finder.directoryOf w.files)) (ModuleName.tail name),
        w) := by
  rw [search, exec_bind_ok (exec_files w), exec_ofExcept]

/-- The statements of the program of a module, as far as the files have them. -/
def programIn (files : FileSystem) (found : Finder.Finding) : Except Raised (List Statement) :=
  match found.source? with
  | none => .ok []
  | some path =>
    match files.read path with
    | .error _ => .ok []
    | .ok content => (Finder.compileFile content).mapError SyntaxFault.raised

theorem programIn_of_read {files : FileSystem} {found : Finder.Finding} {path : Path}
    {content : Content} (file : found.source? = some path) (read : files.read path = .ok content) :
    programIn files found = (Finder.compileFile content).mapError SyntaxFault.raised := by
  rw [programIn, file]
  dsimp only
  rw [read]

@[simp]
theorem exec_programOf (found : Finder.Finding) (w : Workspace) :
    (programOf found).exec w = (programIn w.files found, w) := by
  unfold programOf programIn
  cases found.source? with
  | none => rfl
  | some path =>
    rw [exec_bind_ok (exec_files w)]
    dsimp only
    cases w.files.read path with
    | error fault => rfl
    | ok content => exact exec_ofExcept _ w

/-- The files after a message to the logging of the interpreter. -/
def logged (w : Workspace) (severity : Severity) (message : String) : FileSystem :=
  match w.engine.handler with
  | none => w.files
  | some handler =>
    if severity.rank < handler.threshold.rank then w.files
    else w.files.record handler.path w.clock.stamp
      ⟨.interpreter, severity.name ++ " " ++ message⟩

@[simp]
theorem exec_log (severity : Severity) (message : String) (w : Workspace) :
    (log severity message).exec w = (.ok (), { w with files := logged w severity message }) := by
  unfold logged
  show (Except.ok (), match w.engine.handler with
    | none => w
    | some handler => _) = _
  cases w.engine.handler with
  | none => rfl
  | some handler =>
    dsimp only
    split <;> rfl

theorem exec_writeFile (path text : String) (w : Workspace) :
    (writeFile path text).exec w =
      match w.files.write (Path.ofText path) (Octets.ofText text) with
      | .ok files => (.ok (), { w with files })
      | .error fault => (.error (.ofFile path fault), w) := by
  have exec_modifyGet {γ : Type} (f : Workspace → γ × Workspace) :
      (modifyGet f : Run γ).exec w = (.ok (f w).1, (f w).2) := rfl
  rw [writeFile, exec_bind, exec_modifyGet]
  cases w.files.write (Path.ofText path) (Octets.ofText text) <;> rfl

/-! ## Calls and imports -/

/-- Work with a namespace that is gone afterwards. -/
theorem exec_calling (ns : Namespace) (body : Home → Run α) (k : Except Raised α → Run β)
    (w : Workspace) :
    (do
      let space ← allocate ns
      let x ← outcome (body space)
      change (·.release space)
      k x : Run β).exec w =
      let ended := (body w.engine.fresh).exec { w with engine := w.engine.allocate ns }
      (k ended.1).exec { ended.2 with engine := ended.2.engine.release w.engine.fresh } := by
  rw [exec_bind_ok (exec_allocate ns w), exec_bind_ok (exec_outcome _ _),
    exec_bind_ok (exec_change _ _)]

/-- Runs the program of a module that was found. -/
def runFound (r : Reach) (home : Home) (found : Finder.Finding) : Run Unit := do
  let program ← programOf found
  executeProgram r home program

theorem exec_runFound (r : Reach) (home : Home) {found : Finder.Finding} {w : Workspace}
    {program : List Statement} (compiles : programIn w.files found = .ok program) :
    (runFound r home found).exec w = (executeProgram r home program).exec w := by
  have read : (programOf found).exec w = (.ok program, w) := by
    rw [exec_programOf, compiles]
  rw [runFound, exec_bind_ok read]

/-- The engine in which the program of a module starts. -/
def starting (e : Engine) (name : String) (found : Finder.Finding) : Engine :=
  (e.allocate (found.names name)).startLoading name e.fresh

/-- The program of a module sees the module that it is the program of. -/
theorem exec_load (r : Reach) (name : String) (found : Finder.Finding) (w : Workspace) :
    (load r name found).exec w =
      let home := w.engine.fresh
      let ended := (runFound r home found).exec { w with engine := starting w.engine name found }
      match ended.1 with
      | .ok _ => (.ok home, { ended.2 with engine := ended.2.engine.finishLoading home })
      | .error e =>
        (.error e, { ended.2 with engine := ended.2.engine.abandonLoading name home }) := by
  rw [load, exec_bind_ok (exec_allocate _ w), exec_bind_ok (exec_change _ _), exec_bind,
    exec_tryCatch]
  unfold runFound starting
  dsimp only
  generalize (do
    let program ← programOf found
    executeProgram r w.engine.fresh program).exec _ = ended
  obtain ⟨x, after⟩ := ended
  cases x <;> rfl

end EmbeddedPython.Run
