import EmbeddedPython.Proofs.Calls.Sessions
import EmbeddedPython.Proofs.Engine.Loaded
import EmbeddedPython.Proofs.Files.Scripts

/-!
# The module that a file call works on

A call of a function of a script imports the script by its name: the directory
of the script goes to the end of the search path, and the import system looks
for the name.  So the function that is called is the one of the module of that
name if there is such a module, and of what the search finds first otherwise
(`callFile_calls_named_module`).  It is a function of the script itself if the
name stands for no module and the search finds the script.

Scripts of one name in two directories show the difference
(`second_script_of_a_name_calls_the_first`).
-/

namespace EmbeddedPython

/-! ## Functions of modules -/

namespace Run

/-- A name of a module is an attribute of it. -/
theorem exec_attributeOf_module {home : Home} {name : String} {v : Value} {w : Workspace}
    (bound : w.engine.global? home name = some v) :
    (attributeOf (.module home) name).exec w = (.ok v, w) := by
  rw [attributeOf, attributeWith, exec_bind_ok (exec_engine w), bound]
  rfl

end Run

/-- The session in which the module of a script is imported: its directory is on
the search path, and the log has a note of this and of the import. -/
def Session.importing (s : Session) (script : Script) : Session where
  machine := (s.machine.tell .debug ("Appended to sys.path: " ++ script.searchEntry)).tell .debug
    ("Importing module: " ++ script.moduleName)
  engine := s.engine.extendPath script.searchEntry

namespace Host

open Work

/-- Calls a function that was found in a module with the first row of a table. -/
def callFound (name function : String) (f : Value) (params : Option Table) : Work Value := do
  let args ← .argumentsOf params
  let v ← .ofRun (fun e => .execution name e.line) (Run.call f args)
  .tell .debug
    (name ++ "." ++ function ++ " returned " ++ v.typeName ++ " in " ++ (← Work.elapsed))
  return v

/-- Calls a function that was found, and converts the result. -/
def applyFound (name function : String) (f : Value) (params : Option Table) (t : HostType) :
    Work t.Carrier := do
  let v ← callFound name function f params
  .ofExcept (convert t v)

/-- Once the module of the script is there, what it binds the name of the function
to is called. -/
theorem exec_fileWork {script : Script} {function : String} {f : Value} (params : Option Table)
    (t : HostType) {s : Session} {module : Home} {w : Workspace}
    (imported : (Run.importModule script.moduleName).exec (s.importing script).inner =
      (.ok module, w))
    (bound : w.engine.global? module function = some f) :
    (fileWork script function params t).exec s =
      (applyFound script.moduleName function f params t).exec
        ((s.importing script).withInner w) := by
  have extended : (extendPath script.searchEntry).exec s = (.ok (),
      ⟨s.machine.tell .debug ("Appended to sys.path: " ++ script.searchEntry),
        s.engine.extendPath script.searchEntry⟩) := rfl
  have found : (Work.importModule script.moduleName).exec (s.importing script) =
      (.ok module, (s.importing script).withInner w) := by
    rw [Work.importModule, exec_ofRun, imported]
    rfl
  have looked : (ofRun (fun e => .execution script.moduleName e.line)
      (Run.attributeOf (.module module) function)).exec ((s.importing script).withInner w) =
      (.ok f, (s.importing script).withInner w) := by
    rw [exec_ofRun, Session.inner_withInner, Run.exec_attributeOf_module bound]
    rfl
  have called : (callModule script.moduleName function params).exec
      ⟨s.machine.tell .debug ("Appended to sys.path: " ++ script.searchEntry),
        s.engine.extendPath script.searchEntry⟩ =
      (callFound script.moduleName function f params).exec ((s.importing script).withInner w) := by
    rw [callModule, exec_bind_ok (exec_tell _ _ _)]
    exact (exec_bind_ok found).trans (exec_bind_ok looked)
  rw [fileWork, exec_bind_ok extended, exec_bind, called, applyFound, exec_bind]

/-- A call of a function of a script whose arguments are in order extends the search
path by the directory of the script, and then does one of two things.

If the name of the script stands for a module, the function of that module is
called, whichever file it came from, and no program is run.  If the name has no
dots, stands for no module and is none of the interpreter's own, and what the
search finds under it is the script, then the program of the script is run in a
new namespace, and the function that it binds is called. -/
theorem callFile_calls_named_module (h : Host) {path function : String} {params : Option Table}
    (t : HostType) {p : Embedding} {script : Script} {args : List Value}
    (ready : p.initialized.isSome)
    (accepted : Script.ofPath p.session.machine.home? path = .ok script)
    (named : Text.isAllBlank function = false) (usable : Table.argumentsIn params = .ok args) :
    let name := script.moduleName
    let s := (p.noting params).session.importing script
    let w := s.inner
    (∀ module top f, w.engine.module? name = some module →
      (ModuleName.head name).isEmpty = false → w.engine.module? (ModuleName.head name) = some top →
      w.engine.global? module function = some f →
      (h.callFile path function params t).run false p =
        (p.withSession s).does (applyFound name function f params t)) ∧
    ∀ file content program after f, w.engine.module? name = none → '.' ∉ name.toList →
      Standard.provides name = false →
      Finder.search w.files (w.engine.searchPath.map (Finder.directoryOf w.files)) name =
        .ok (some (.file file)) →
      w.files.read file = w.files.read script.file → w.files.read script.file = .ok content →
      Finder.compileFile content = .ok program →
      (Run.executeProgram (Run.reach (Run.depth - 1)) w.engine.fresh program).exec
        { w with engine := Run.starting w.engine name (.file file) } = (.ok (), after) →
      after.engine.global? w.engine.fresh function = some f →
      (h.callFile path function params t).run false p =
        (p.withSession (s.withInner
          { after with engine := after.engine.finishLoading w.engine.fresh })).does
          (applyFound name function f params t) := by
  intro name s w
  have nonempty := Script.isEmpty_moduleName accepted
  have works := run_callFile h t ready accepted named usable
  refine ⟨fun module top f loaded start first bound => ?_, ?_⟩
  · have imported : (Run.importModule name).exec w = (.ok module, w) :=
      Run.exec_importModule_of_loaded start loaded first
    rw [works, Embedding.does, exec_fileWork params t imported bound]
    rfl
  · intro file content program after f absent dotless foreign finds same holds compiles runs bound
    have read : Run.programIn w.files (.file file) = .ok program := by
      rw [Run.programIn_of_read rfl (same.trans holds), compiles]
      rfl
    have imported := Run.exec_importModule_of_found nonempty dotless absent foreign finds read runs
    rw [works, Embedding.does, exec_fileWork params t imported bound]
    rfl

namespace SameName

/-- Two scripts of one name, each with a function that returns the number of its
directory. -/
def files : FileSystem :=
  let script (directory : String) (n : Int) : Location × Node :=
    ([Octets.ofText directory, Octets.ofText "m.py"],
      .file ⟨.program [.statements [.defineAs "f" ⟨.constant (.int n), rfl⟩]], false⟩)
  ⟨[([Octets.ofText "a"], .directory), script "a" 1, ([Octets.ofText "b"], .directory),
    script "b" 2], []⟩

/-- A process whose interpreter is ready. -/
def process : Embedding :=
  { Embedding.start ⟨files, [], Log.initial, "", ⟨"", "", 0⟩⟩ "" with
    initialized := some ⟨Engine.series, ⟨[]⟩⟩ }

def host : Host := ⟨⟨⟨[]⟩, Engine.series⟩, .ofRoot ⟨[]⟩ none, none⟩

/-- The first script. -/
def script : Script := ⟨Path.ofText "a/m.py", Path.ofText "a", "m"⟩

theorem eq_ok_of_toOption {ε α : Type} {x : Except ε α} {a : α} (h : x.toOption = some a) :
    x = .ok a := by
  cases x with
  | ok b => rw [Option.some.inj h]
  | error e => cases h

/-- A call of the function of a script. -/
def call (path : String) (p : Embedding) : Except Failure Int64 × Embedding :=
  (host.callFile path "f" none .int64).run false p

/-- The number that a call gives, if it gives one. -/
def given (r : Except Failure Int64 × Embedding) : Option Int :=
  r.1.toOption.map Int64.toInt

end SameName

open SameName in
/-- In a process that imported nothing, the search finds the first script. -/
theorem lone_script_calls_its_own :
    let s := process.session.importing script
    ∃ after : Workspace,
      call "a/m.py" process =
        (process.withSession (s.withInner
          { after with engine := after.engine.finishLoading s.engine.fresh })).does
          (applyFound "m" "f" (.function "f" (.constant (.int 1)) s.engine.fresh) none .int64) := by
  have accepted : Script.ofPath process.session.machine.home? "a/m.py" = .ok script :=
    eq_ok_of_toOption (by decide +kernel)
  have entry : script.searchEntry = "a" := by decide +kernel
  have finds : Finder.search files ([script.searchEntry].map (Finder.directoryOf files)) "m" =
      .ok (some (.file (Path.ofText "/a/m.py"))) := by
    rw [entry]
    rfl
  exact ⟨_, (callFile_calls_named_module host .int64 rfl accepted (by decide +kernel) rfl).2
    (Path.ofText "/a/m.py") (.program [.statements [.defineAs "f" ⟨.constant (.int 1), rfl⟩]])
    [.defineAs "f" ⟨.constant (.int 1), rfl⟩] _ _ rfl (by decide) (by decide) finds rfl rfl rfl
    rfl rfl⟩

open SameName in
/-- The function of the second script returns another number than that of the
first one, unless the first one was called before. -/
theorem second_script_of_a_name_calls_the_first :
    given (call "b/m.py" process) = some 2 ∧
      given (call "a/m.py" process) = some 1 ∧
      given (call "b/m.py" (call "a/m.py" process).2) = some 1 := by
  decide +kernel

end Host

end EmbeddedPython
