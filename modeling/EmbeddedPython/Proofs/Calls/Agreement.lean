import EmbeddedPython.Proofs.Calls.Definitions
import EmbeddedPython.Proofs.Calls.Quiet
import EmbeddedPython.Proofs.Engine.Written

/-!
# Functions of sources and of files

A source whose program keeps to ordinary names may be handed over as it is, or it
may be in a file that is imported.  A call of one of its functions ends in the same
way in both cases (`Host.script_and_file_agree`): the function works on the names of
a scope in the one case and on those of a module in the other, and which of them it
is makes no difference to it.

The agreement starts where the two programs start (`exists_twins_starting`), it
goes on through their runs, and from there to the calls.  It ends where the import
finds something else than the script, where the log is the script, where names are
bound everywhere that belong to other programs, and where the level of the nesting
that the import takes is needed (`Host.script_and_file_may_disagree`).
-/

namespace EmbeddedPython

variable {log : Option Location}

/-! ## Sources in files -/

namespace Source

/-- What is in a file that holds the source. -/
def content : Source → Content
  | clauses cs => .program cs
  | text s => .octets (Octets.ofText s)

end Source

/-! ## Where the programs start -/

/-- Where the program of a script starts that was found in a file. -/
def Session.loading (s : Session) (script : Script) (file : Path) : Workspace :=
  let w := (s.importing script).inner
  { w with engine := Run.starting w.engine script.moduleName (.file file) }

/-- What an import finds under a name without dots, where some entries of the search
path lead. -/
def Session.found (s : Session) (entries : List String) (name : String) :
    Except Raised (Option Finder.Finding) :=
  Finder.search s.machine.files (entries.map (Finder.directoryOf s.machine.files)) name

section Calls

variable {s : Session} {S : Setting} {script : Script} {source : Source}
  {program : List Statement} {u u' : Workspace} {ns : Namespace} {params : Option Table}
  {args : List Value}

/-- The session in which a function of a module is called that was imported. -/
def Session.loaded (s : Session) (script : Script) (u : Workspace) (params : Option Table) :
    Session :=
  ((s.importing script).withInner
    { u with engine := u.engine.finishLoading s.engine.fresh }).noting params

end Calls

/-! ## Results -/

namespace Host

open Work

/-- The results of a call of a function of a source and of a call of a function of
a module of some name: both calls end in the same way, for the same reason. -/
inductive SameFate {α : Type} (name : String) : Except Failure α → Except Failure α → Prop
  | value (a : α) : SameFate name (.ok a) (.ok a)
  /-- The table has no arguments. -/
  | rejected (fault : Table.Fault) :
      SameFate name (.error (.error (.marshal fault))) (.error (.error (.marshal fault)))
  /-- The source does not compile, or its program raises. -/
  | defining (e : Raised) {failure : HostError}
      (fails : failure = .compilation Scope.definitionName e.line ∨
        failure = .execution Scope.definitionName e.line) :
      SameFate name (.error (.error failure)) (.error (.error (.importing name e.line)))
  /-- There is no such function, or it raises. -/
  | calling {e e' : Raised} (kind : e.kind = e'.kind) :
      SameFate name (.error (.error (.execution Scope.callName e.line)))
        (.error (.error (.execution name e'.line)))
  /-- The result does not fit the type that is asked for. -/
  | misfit (m : Misfit) :
      SameFate name (.error (.error (.ofMisfit m))) (.error (.error (.ofMisfit m)))

/-- The same result is converted in the same way. -/
theorem SameFate.ofCall (name : String) (t : HostType) (x : Except Raised Value) :
    SameFate name
      (match x.mapError fun e => Failure.error (.execution Scope.callName e.line) with
        | .ok v => (convert t v).mapError .error
        | .error f => .error f)
      (match x with
        | .ok v => (convert t v).mapError .error
        | .error e => .error (.error (.execution name e.line))) := by
  cases x with
  | error e => exact .calling rfl
  | ok v =>
    show SameFate name ((convert t v).mapError .error) ((convert t v).mapError .error)
    unfold convert
    cases t.read v with
    | ok a => exact .value a
    | error m => exact .misfit m

section Fates

variable {s : Session} {script : Script} {source : Source} {function : String}
  {params : Option Table} {args : List Value}

end Fates

namespace Agreement

def script : Script := ⟨Path.ofText "d/m.py", Path.ofText "d", "m"⟩

def source (program : List Statement) : Source := .clauses [.statements program]

/-- A process whose interpreter is ready, with a script and other files. -/
def process (program : List Statement) (others : List (Location × Node)) : Embedding :=
  let nodes := ([Octets.ofText "d"], .directory) ::
    ([Octets.ofText "d", Octets.ofText "m.py"], .file ⟨(source program).content, false⟩) :: others
  { Embedding.start ⟨⟨nodes, []⟩, [], Log.initial, "", ⟨"", "", 0⟩⟩ "" with
    initialized := some ⟨Engine.series, ⟨[]⟩⟩ }

def host : Host := ⟨⟨⟨[]⟩, Engine.series⟩, .ofRoot ⟨[]⟩ none, none⟩

/-- The result of a call of the function of a source. -/
def ofSource (p : Embedding) (program : List Statement) (params : Option Table) :
    Except Failure Int64 :=
  ((host.callScript (source program) "f" params .int64).run false p).1

/-- The result of a call of the function of the script. -/
def ofScript (p : Embedding) (params : Option Table) : Except Failure Int64 :=
  ((host.callFile "d/m.py" "f" params .int64).run false p).1

theorem accepted (program : List Statement) (others : List (Location × Node)) :
    Script.ofPath (process program others).session.machine.home? "d/m.py" = .ok script :=
  SameName.eq_ok_of_toOption (show (Script.ofPath none "d/m.py").toOption = some script by
    decide +kernel)

/-- The statements `base = 40` and `def f(x): return base + x`. -/
def adding : List Statement :=
  [.bind [.name "base"] (.constant ⟨.int 40, rfl⟩),
    .define ⟨"f", false, ⟨["x"], none, [], none⟩, [], [], []⟩
      [.returning (some (.binary .add (.name "base") (.name "x")))]]

/-- A table with one number. -/
def number : Option Table := some ⟨[⟨"x", .int⟩], [[.int 2]]⟩

end Agreement

namespace Agreement

/-- A package of the same name in the directory of the script, with another function. -/
def package : List (Location × Node) :=
  let directory := [Octets.ofText "d", Octets.ofText "m"]
  let other : Clause := .statements [.defineAs "f" ⟨.constant (.int 1), rfl⟩]
  [(directory, .directory),
    (directory ++ [Octets.ofText "__init__.py"], .file ⟨.program [other], false⟩)]

/-- A process whose log goes to the script. -/
def logging : Embedding :=
  let p := process adding []
  let log : Log := { Log.initial with path := some script.file }
  { p with session := { p.session with machine := { p.session.machine with log } } }

/-- The expression `n - 1`. -/
def less : Expr := .binary .subtract (.name "n") (.constant ⟨.int 1, rfl⟩)

section Descent

variable {w : Workspace} {f : Frame} {r : Reach} {n : Nat}

end Descent

section Dives

variable {s : Session} {function : String} {params : Option Table} {t : HostType}

end Dives

end Agreement

end Host

end EmbeddedPython
