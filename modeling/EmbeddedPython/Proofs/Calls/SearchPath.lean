import EmbeddedPython.Proofs.Calls.Sessions
import EmbeddedPython.Proofs.Settings

/-!
# The search path

No program changes the search path (`Run.isClosed_keepsPath`), and no operation
does so but by `Work.extendPath`.  So it is known what each call adds to it:
`Call.addition?` reads it off the arguments and the files, without running anything.

`SearchPath.accounts` sums this up over calls one after another, whatever becomes of
them.
-/

namespace EmbeddedPython

/-! ## Programs -/

namespace Run

/-- No step of a program changes the search path. -/
def KeepsPath {α : Type} (r : Run α) : Prop :=
  Steps.Keeps (fun w : Workspace => w.engine.searchPath) r.run

variable {α β : Type}

theorem keepsPath_bind {r : Run α} {k : α → Run β} (first : r.KeepsPath)
    (second : ∀ a, (k a).KeepsPath) : (r >>= k).KeepsPath := by
  refine Steps.Keeps.bind first fun x => ?_
  cases x with
  | ok a => exact second a
  | error e => exact .done _

theorem keepsPath_change {f : Engine → Engine} (h : ∀ e, (f e).searchPath = e.searchPath) :
    (change f).KeepsPath :=
  .step (fun w => h w.engine) fun _ => .done _

theorem keepsPath_engine : engine.KeepsPath :=
  keepsPath_bind (.step (fun _ => rfl) fun _ => .done _) fun _ => .done _

theorem keepsPath_allocate (ns : Namespace) : (allocate ns).KeepsPath :=
  keepsPath_bind keepsPath_engine fun _ => keepsPath_bind (keepsPath_change fun _ => rfl)
    fun _ => .done _

theorem keepsPath_outcome {r : Run α} (h : r.KeepsPath) : (outcome r).KeepsPath :=
  Steps.Keeps.bind h fun _ => .done _

theorem keepsPath_tryCatch {r : Run α} {handler : Raised → Run α} (first : r.KeepsPath)
    (second : ∀ e, (handler e).KeepsPath) : (tryCatch r handler).KeepsPath := by
  refine Steps.Keeps.bind first fun x => ?_
  cases x with
  | ok a => exact .done _
  | error e => exact second e

theorem keepsPath_ofExcept (x : Except Raised α) : (ofExcept x).KeepsPath := by
  cases x <;> exact .done _

theorem keepsPath_files : files.KeepsPath :=
  keepsPath_bind (.step (fun _ => rfl) fun _ => .done _) fun _ => .done _

theorem keepsPath_log (severity : Severity) (message : String) :
    (log severity message).KeepsPath := by
  refine .step (fun w => ?_) fun _ => .done _
  dsimp only
  split
  · rfl
  · split <;> rfl

theorem keepsPath_writeFile (path text : String) : (writeFile path text).KeepsPath := by
  refine keepsPath_bind (.step (fun w => ?_) fun _ => .done _) fun _ => keepsPath_ofExcept _
  dsimp only
  split <;> rfl

theorem keepsPath_programOf (found : Finder.Finding) : (programOf found).KeepsPath := by
  unfold programOf
  split
  · exact .done _
  · refine keepsPath_bind keepsPath_files fun fs => ?_
    split
    · exact .done _
    · exact keepsPath_ofExcept _

theorem keepsPath_load {r : Reach} (name : String) (found : Finder.Finding)
    (program : ∀ home statements, (executeProgram r home statements).KeepsPath) :
    (load r name found).KeepsPath :=
  keepsPath_bind (keepsPath_allocate _) fun home =>
    keepsPath_bind (keepsPath_change fun _ => rfl) fun _ =>
      keepsPath_bind
        (keepsPath_tryCatch
          (keepsPath_bind (keepsPath_programOf found) fun statements => program home statements)
          fun _ => keepsPath_bind (keepsPath_change fun _ => rfl) fun _ => .done _)
        fun _ => keepsPath_bind (keepsPath_change fun _ => rfl) fun _ => .done _

theorem isClosed_keepsPath : IsClosed KeepsPath where
  value _ := .done _
  raised _ := .done _
  bind := keepsPath_bind
  caught := keepsPath_outcome
  looks := keepsPath_engine
  updates _ _ := keepsPath_change fun _ => rfl
  emits _ := keepsPath_change fun _ => rfl
  logs := keepsPath_log
  writes := keepsPath_writeFile
  calling ns _ _ inner rest :=
    keepsPath_bind (keepsPath_allocate ns) fun space =>
      keepsPath_bind (keepsPath_outcome (inner space)) fun x =>
        keepsPath_bind (keepsPath_change fun _ => rfl) fun _ => rest x
  adds _ names :=
    keepsPath_bind (keepsPath_allocate names) fun _ =>
      keepsPath_bind (keepsPath_change fun _ => rfl) fun _ =>
        keepsPath_bind (keepsPath_change fun _ => rfl) fun _ => .done _
  loading {r name entries} program := by
    refine keepsPath_bind keepsPath_engine fun e => ?_
    split
    · exact .done _
    · refine keepsPath_bind (keepsPath_bind keepsPath_files fun _ => keepsPath_ofExcept _)
        fun found => ?_
      split
      · exact keepsPath_load name _ program
      · exact .done _

end Run

/-! ## Work -/

namespace Work

variable {α β : Type}

/-- No step of the work changes the search path. -/
def KeepsPath (w : Work α) : Prop :=
  Steps.Keeps (fun s : Session => s.engine.searchPath) w.run

theorem isClosed_keepsPath : IsClosed Run.KeepsPath KeepsPath where
  programs := Run.isClosed_keepsPath
  allocates := Run.keepsPath_allocate
  value _ := .done _
  throws _ := .done _
  bind := keeps_bind
  looks := .step (fun _ => rfl) fun _ => .done _
  changes _ := keeps_modify fun _ => rfl
  outcomes {_ r} h := by
    have inner : (r.run.on Session.workspace).Keeps fun s =>
        (Session.workspace.get s).engine.searchPath := Steps.Keeps.on h
    exact inner.bind fun _ => .done _
  releases _ h := Steps.Keeps.bind h fun _ => .step (fun _ => rfl) fun _ => .done _

/-- Work makes the search path longer by some entries, however it ends. -/
def Adds (w : Work α) (entries : List String) : Prop :=
  ∀ s, (w.exec s).2.engine.searchPath = s.engine.searchPath ++ entries

theorem KeepsPath.adds {w : Work α} (h : w.KeepsPath) : w.Adds [] := fun s =>
  (h.run_snd s).trans (List.append_nil _).symm

theorem adds_extendPath_bind (entry : String) {k : Unit → Work α} (rest : (k ()).KeepsPath) :
    (extendPath entry >>= k).Adds [entry] := by
  intro s
  have extended : (extendPath entry).exec s =
      (.ok (), ⟨s.machine.tell .debug ("Appended to sys.path: " ++ entry),
        s.engine.extendPath entry⟩) := rfl
  rw [exec_bind_ok extended]
  exact rest.run_snd _

theorem adds_extendPath (entry : String) : (extendPath entry).Adds [entry] := fun _ => rfl

end Work

/-! ## Operations -/

namespace Op

variable {α β : Type} {held : Bool} {p : Embedding} {entries : List String}

/-- An operation makes the search path longer by some entries, however it ends, and
does not initialize the interpreter. -/
structure Adds (op : Op α) (held : Bool) (p : Embedding) (entries : List String) : Prop where
  path : (op.run held p).2.session.engine.searchPath = p.session.engine.searchPath ++ entries
  initialized : (op.run held p).2.initialized = p.initialized

theorem adds_of_run {op : Op α} {r : Except Failure α} (h : op.run held p = (r, p)) :
    op.Adds held p [] := by
  constructor
  · rw [h, List.append_nil]
  · rw [h]

theorem Adds.map {op : Op α} (h : op.Adds held p entries) (f : α → β) :
    (f <$> op).Adds held p entries := by
  have same : ((f <$> op).run held p).2 = (op.run held p).2 := by
    show ((op >>= fun a => pure (f a)).run held p).2 = _
    rw [Activity.run_bind]
    cases (op.run held p).1 <;> rfl
  constructor
  · rw [same, h.path]
  · rw [same, h.initialized]

/-- An operation that adds nothing goes before one that does, and after a failure
nothing is added. -/
theorem Adds.bind {op : Op α} {k : α → Op β} (first : op.Adds held p [])
    (rest : ∀ a q, op.run held p = (.ok a, q) → q.initialized = p.initialized →
      (k a).Adds held q entries)
    (failed : ∀ f q, op.run held p = (.error f, q) → entries = []) :
    (op >>= k).Adds held p entries := by
  obtain ⟨path, initialized⟩ := first
  rw [List.append_nil] at path
  generalize found : op.run held p = ended at *
  obtain ⟨a | f, q⟩ := ended
  · obtain rfl := failed _ q rfl
    have same : (op >>= k).run held p = (.error a, q) := by rw [Activity.run_bind, found]
    constructor
    · rw [same, List.append_nil]
      exact path
    · rw [same]
      exact initialized
  · have same : (op >>= k).run held p = (k f).run held q := Activity.run_bind_ok found
    have later := rest f q rfl initialized
    constructor
    · rw [same, later.path]
      exact congrArg (· ++ entries) path
    · rw [same, later.initialized]
      exact initialized

theorem adds_of_failed {op : Op α} {k : α → Op β} {f : Failure}
    (h : op.run held p = (.error f, p)) : (op >>= k).Adds held p [] := by
  refine adds_of_run (r := .error f) ?_
  rw [Activity.run_bind, h]

theorem Adds.behind {op : Op α} {k : α → Op β} {a : α} (h : op.run held p = (.ok a, p))
    (rest : (k a).Adds held p entries) : (op >>= k).Adds held p entries := by
  refine (adds_of_run h).bind (fun b q done _ => ?_) fun f q done => ?_
  · obtain ⟨same, rfl⟩ := Prod.mk.inj (h.symm.trans done)
    rwa [← Except.ok.inj same]
  · cases h.symm.trans done

theorem adds_ofWork {w : Work α} (h : w.Adds entries) : (ofWork w).Adds held p entries := by
  constructor
  · rw [run_ofWork]
    exact h p.session
  · rw [run_ofWork]

/-- Whoever holds the lock already adds nothing. -/
theorem adds_locked {w : Work α} (h : w.Adds entries) (ready : p.initialized.isSome) :
    (locked (ofWork w)).Adds held p (if held then [] else entries) := by
  cases held with
  | true =>
    obtain ⟨i, recorded⟩ := Option.isSome_iff_exists.1 ready
    exact adds_of_run (run_locked_of_some _ true p recorded)
  | false =>
    have same := run_locked w ready
    constructor
    · rw [same]
      exact h p.session
    · rw [same]
      rfl

theorem adds_nothing {w : Work α} (h : w.KeepsPath) (ready : p.initialized.isSome) :
    (locked (ofWork w)).Adds held p [] := by
  have added : (locked (ofWork w)).Adds held p (if held then [] else []) := adds_locked h.adds ready
  rwa [ite_self] at added

end Op

namespace Call

/-- The table can be used, if there is one. -/
def isUsable : Option Table → Bool
  | none => true
  | some t => t.argumentRow.toBool

/-- What a call adds to the search path, if the lock is free.  A script that is run
has to be there and to be text; one that a function is called of need not be. -/
def addition? (p : Embedding) : Call → Option String
  | setPath entry => some entry
  | runFile path => do
    let script ← (Script.ofPath p.session.machine.home? path).toOption
    let _ ← (p.session.machine.files.readSource script.file).toOption
    return script.searchEntry
  | callFile path function params _ => do
    let script ← (Script.ofPath p.session.machine.home? path).toOption
    if !Text.isAllBlank function && isUsable params then some script.searchEntry else none
  | _ => none

/-- What a call adds to the search path, if anything. -/
def entries (held : Bool) (p : Embedding) (call : Call) : List String :=
  if held then [] else (call.addition? p).toList

variable {held : Bool} {p : Embedding} {call : Call}

theorem entries_of_none (h : call.addition? p = none) : call.entries held p = [] := by
  simp [entries, h]

theorem entries_of_some {entry : String} (h : call.addition? p = some entry) :
    call.entries held p = if held then [] else [entry] := by
  rw [entries, h]
  rfl

end Call

namespace Host

open Op

variable {held : Bool} {p : Embedding}

theorem run_scriptAt (path : String) (held : Bool) (p : Embedding) :
    (scriptAt path).run held p =
      ((Script.ofPath p.session.machine.home? path).mapError fun fault =>
        .error (.configuration (.script fault)), p) := by
  show (ofExcept ((Script.ofPath p.session.machine.home? path).mapError _)).run held p = _
  cases Script.ofPath p.session.machine.home? path <;> rfl

theorem adds_tell (level : Log.Level) (message : String) : (tell level message).Adds held p [] :=
  adds_ofWork (Work.isClosed_keepsPath.tell level message).adds

theorem adds_ofExcept {α : Type} (r : Except HostError α) : (ofExcept r).Adds held p [] := by
  cases r <;> exact adds_of_run rfl

theorem adds_checkParams (params : Option Table) : (checkParams params).Adds held p [] := by
  cases params with
  | none => exact adds_of_run rfl
  | some t =>
    have noted : (changeMachine (·.noteUnusedRows t)).Adds held p [] :=
      adds_ofWork (Work.isClosed_keepsPath.changes (Machine.settings_noteUnusedRows · t)).adds
    refine noted.bind (fun _ _ _ _ => ?_) fun _ _ _ => rfl
    exact (adds_ofExcept _).bind (fun _ _ _ _ => adds_of_run rfl) fun _ _ _ => rfl

/-- The check of a table tells whether it can be used. -/
theorem isUsable_of_run {params : Option Table} {q : Embedding} {r : Except Failure Unit}
    (h : (checkParams params).run held p = (r, q)) : Call.isUsable params = r.toBool := by
  cases params with
  | none =>
    obtain ⟨rfl, rfl⟩ := Prod.mk.inj h
    rfl
  | some t =>
    rw [checkParams, Activity.run_bind_ok (Op.run_ofWork _ held p)] at h
    rw [Call.isUsable]
    cases found : t.argumentRow <;> rw [found] at h <;> obtain ⟨rfl, rfl⟩ := Prod.mk.inj h <;> rfl

theorem adds_runFile (h : Host) (path : String) (ready : p.initialized.isSome) :
    (h.runFile path).Adds held p ((Call.runFile path).entries held p) := by
  have named := run_scriptAt path held p
  show (scriptAt path >>= fun script => machine >>= fun m =>
    h.runRead script (m.files.readSource script.file)).Adds held p _
  cases found : Script.ofPath p.session.machine.home? path with
  | error fault =>
    rw [found] at named
    rw [Call.entries_of_none (by simp [Call.addition?, found, Except.toOption])]
    exact adds_of_failed named
  | ok script =>
    rw [found] at named
    refine .behind named (.behind (a := p.session.machine) rfl ?_)
    cases read : p.session.machine.files.readSource script.file with
    | error fault =>
      rw [Call.entries_of_none (by simp [Call.addition?, found, read, Except.toOption])]
      exact adds_of_run (r := .error (.error (.io fault))) rfl
    | ok source =>
      have entry : (Call.runFile path).addition? p = some script.searchEntry := by
        simp [Call.addition?, found, read, Except.toOption]
      rw [Call.entries_of_some entry]
      show (tell .debug _ >>= fun _ => locked (ofWork (.extendPath script.searchEntry >>= fun _ =>
        Scope.execute source (some script.moduleName)))).Adds held p _
      refine (adds_tell _ _).bind (fun _ q _ same => ?_) fun _ _ failed => ?_
      · exact adds_locked (Work.adds_extendPath_bind _ (Work.isClosed_keepsPath.execute _ _))
          (same ▸ ready)
      · cases failed

theorem adds_callFile (h : Host) (path function : String) (params : Option Table) (t : HostType)
    (ready : p.initialized.isSome) :
    (h.callFile path function params t).Adds held p
      ((Call.callFile path function params t).entries held p) := by
  have keeps := Work.isClosed_keepsPath
  have named := run_scriptAt path held p
  show (scriptAt path >>= fun script => ofExcept (checkFunction function) >>= fun _ =>
    checkParams params >>= fun _ => locked (ofWork (fileWork script function params t))).Adds _ _ _
  cases found : Script.ofPath p.session.machine.home? path with
  | error fault =>
    rw [found] at named
    rw [Call.entries_of_none (by simp [Call.addition?, found, Except.toOption])]
    exact adds_of_failed named
  | ok script =>
    rw [found] at named
    refine .behind named ?_
    cases blank : Text.isAllBlank function with
    | true =>
      rw [Call.entries_of_none (by simp [Call.addition?, found, blank, Except.toOption]),
        checkFunction, blank]
      exact adds_of_failed (f := .error (.configuration .blankFunction)) rfl
    | false =>
      rw [checkFunction_of_not_blank blank]
      refine .behind (a := ()) rfl <|
        (adds_checkParams params).bind (fun _ q done same => ?_) fun f q done => ?_
      · have usable : Call.isUsable params = true := isUsable_of_run done
        have entry : (Call.callFile path function params t).addition? p =
            some script.searchEntry := by
          simp [Call.addition?, found, blank, usable, Except.toOption]
        rw [Call.entries_of_some entry]
        refine adds_locked (Work.adds_extendPath_bind _ ?_) (same ▸ ready)
        exact keeps.bind (keeps.callModule _ function params) fun _ => keeps.ofExcept _
      · have unusable : Call.isUsable params = false := isUsable_of_run done
        exact Call.entries_of_none (by simp [Call.addition?, found, unusable, Except.toOption])

theorem adds_callScript (h : Host) (source : Source) (function : String) (params : Option Table)
    (t : HostType) (ready : p.initialized.isSome) :
    (h.callScript source function params t).Adds held p [] := by
  have keeps := Work.isClosed_keepsPath
  have worked : (scriptWork source function params t).KeepsPath :=
    keeps.bind (keeps.callNamed source function params) fun _ =>
      keeps.bind keeps.elapsed fun _ => keeps.bind (keeps.tell _ _) fun _ => keeps.ofExcept _
  refine (adds_ofExcept _).bind (fun _ q _ first => ?_) fun _ _ _ => rfl
  refine (adds_ofExcept _).bind (fun _ q' _ second => ?_) fun _ _ _ => rfl
  refine (adds_checkParams params).bind (fun _ q'' _ third => ?_) fun _ _ _ => rfl
  exact adds_nothing worked (third ▸ second ▸ first ▸ ready)

end Host

/-- A call adds what is read off its arguments and the files. -/
theorem Call.adds (h : Host) (call : Call) {held : Bool} {p : Embedding}
    (ready : p.initialized.isSome) : (call.op h).Adds held p (call.entries held p) := by
  have keeps := Work.isClosed_keepsPath
  have nothing {α : Type} {w : Work α} (kept : w.KeepsPath) :
      (Op.locked (Op.ofWork w)).Adds held p [] := Op.adds_nothing kept ready
  cases call with
  | setPath entry =>
    rw [entries_of_some rfl]
    exact (Op.adds_locked (Work.adds_extendPath entry) ready).map _
  | runFile path => exact (h.adds_runFile path ready).map _
  | callFile path function params type =>
    exact (h.adds_callFile path function params type ready).map _
  | importModule name =>
    rw [entries_of_none rfl]
    exact (nothing <| keeps.bind (keeps.importModule name) fun _ =>
      keeps.bind keeps.elapsed fun _ => keeps.tell _ _).map _
  | searchPath =>
    rw [entries_of_none rfl]
    exact (nothing (keeps.bind keeps.engine fun _ => keeps.value _)).map _
  | refreshImports =>
    rw [entries_of_none rfl]
    exact (nothing (keeps.tell _ _)).map _
  | execute source scope =>
    rw [entries_of_none rfl]
    exact (nothing (keeps.execute source scope)).map _
  | callScript source function params type =>
    rw [entries_of_none rfl]
    exact (h.adds_callScript source function params type ready).map _
  | initPip launch =>
    rw [entries_of_none rfl]
    exact (nothing (keeps.install launch h.target h.config)).map _

/-! ## Calls one after another -/

namespace SearchPath

/-- A call of a host by a thread that holds the lock or does not. -/
structure Made where
  host : Host
  held : Bool
  call : Call

/-- The process after a call. -/
def Made.after (m : Made) (p : Embedding) : Embedding :=
  ((m.call.op m.host).run m.held p).2

/-- The process after calls. -/
def afterAll : List Made → Embedding → Embedding
  | [], p => p
  | m :: ms, p => afterAll ms (m.after p)

/-- What calls add to the search path, each as the process is when it is made. -/
def added : List Made → Embedding → List String
  | [], _ => []
  | m :: ms, p => m.call.entries m.held p ++ added ms (m.after p)

theorem isSome_initialized_afterAll (ms : List Made) {p : Embedding}
    (ready : p.initialized.isSome) : (afterAll ms p).initialized.isSome := by
  induction ms generalizing p with
  | nil => exact ready
  | cons m ms ih =>
    refine ih ?_
    rw [Made.after, (Call.adds m.host m.call ready).initialized]
    exact ready

theorem searchPath_afterAll (ms : List Made) {p : Embedding} (ready : p.initialized.isSome) :
    (afterAll ms p).session.engine.searchPath =
      p.session.engine.searchPath ++ added ms p := by
  induction ms generalizing p with
  | nil => exact (List.append_nil _).symm
  | cons m ms ih =>
    have adds : (m.call.op m.host).Adds m.held p (m.call.entries m.held p) :=
      Call.adds m.host m.call ready
    have later : (m.after p).initialized.isSome := by
      rw [Made.after, adds.initialized]
      exact ready
    rw [afterAll, ih later, added, Made.after, adds.path, List.append_assoc]

/-- Whatever becomes of the calls, the search path is at the end what it was, with
one entry more for each call that adds one, in the order of the calls.  This is what
a host answers that is asked for it then. -/
theorem accounts (h : Host) (ms : List Made) {p : Embedding} (ready : p.initialized.isSome) :
    (afterAll ms p).session.engine.searchPath =
        p.session.engine.searchPath ++ added ms p ∧
      (h.searchPath.run false (afterAll ms p)).1 =
        .ok (p.session.engine.searchPath ++ added ms p) := by
  have path := searchPath_afterAll ms ready
  refine ⟨path, ?_⟩
  rw [Host.searchPath, Op.run_locked _ (isSome_initialized_afterAll ms ready), ← path]
  rfl

namespace Mixed

/-- A process whose interpreter is ready, with a script that does not compile. -/
def process : Embedding :=
  let files : FileSystem :=
    ⟨[([Octets.ofText "e"], .directory),
      ([Octets.ofText "e", Octets.ofText "x.py"], .file ⟨.program [.fault .zero], false⟩)], []⟩
  { Embedding.start ⟨files, [], Log.initial, "", ⟨"", "", 0⟩⟩ "" with
    initialized := some ⟨Engine.series, ⟨[]⟩⟩ }

def host : Host := ⟨⟨⟨[]⟩, Engine.series⟩, .ofRoot ⟨[]⟩ none, none⟩

/-- Two entries that are the same, a script that does not compile and one that is
not there, and calls that are refused. -/
def calls : List Made :=
  [⟨host, false, .setPath "a"⟩, ⟨host, false, .runFile "e/x.py"⟩, ⟨host, true, .setPath "b"⟩,
    ⟨host, false, .runFile "e/y.py"⟩, ⟨host, false, .callFile "e/y.py" "f" none .cell⟩,
    ⟨host, false, .callFile "e/y.py" " " none .cell⟩, ⟨host, false, .setPath "a"⟩]

end Mixed

open Mixed in
/-- What does not compile and what is not found adds an entry, but what is not there
to be read does not. -/
theorem mixed_calls_account :
    process.initialized.isSome ∧
      (host.searchPath.run false (afterAll calls process)).1 = .ok ["a", "e", "e", "a"] := by
  have sum : added calls process = ["a", "e", "e", "a"] := by decide +kernel
  have answer := (accounts host calls (p := process) rfl).2
  rw [sum] at answer
  exact ⟨rfl, answer⟩

end SearchPath

end EmbeddedPython
