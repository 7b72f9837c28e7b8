import EmbeddedPython.Proofs.Bootstrap.Starts
import EmbeddedPython.Proofs.Engine.Written
import EmbeddedPython.Proofs.Threads.Discipline

/-!
# What comes of a bootstrap

A bootstrap ends well exactly if the package installer can be imported, at the start
or after the one attempt with the script, and that does not hang on what the script
says of itself.  Otherwise the error names the installation and, if the script did not
complete, why (`Host.outcome_of_initPip`).

Between the import and the script nothing changes the clock, so a deadline that the
clock can show at the start can be shown when the script is waited for.
-/

namespace EmbeddedPython

namespace Bootstrap

variable {launch : Launcher} {i : Installation} {config : Config} {s : Session}

/-- The session in which the script is tried, once the first import has failed. -/
def tried (i : Installation) (s : Session) : Session :=
  trying i (s.withInner (imported s.inner))

/-- What programs work on after an attempt that left a machine. -/
def again (i : Installation) (s : Session) (n : Machine) : Workspace :=
  { (tried i s) with machine := n : Session }.inner

/-- The script ran to its end in time and had no complaint. -/
def Completes (launch : Launcher) (i : Installation) (config : Config) (m : Machine) : Prop :=
  ∃ child moment, Runs launch i config m child ∧
    child.endedBy? (deadline config) = some (moment, .exited 0)

theorem clock_tried (i : Installation) (s : Session) :
    (tried i s).machine.clock = s.machine.clock := by
  have step := Machine.clock_perform (s.withInner (imported s.inner)).machine
    (.tell .step ("Bootstrapping pip into " ++ i.root.display))
  exact step.trans (Run.isClosed_keepsClock.importModule moduleName s.inner)

/-- A child of the script is what the launcher gives for the executable that was
found. -/
theorem Runs.child_eq {m : Machine} {child other : Child} (h : Runs launch i config m child)
    (h' : Runs launch i config m other) : other = child := by
  obtain ⟨executable, found, launched⟩ := h.executable
  obtain ⟨executable', found', launched'⟩ := h'.executable
  obtain rfl := Option.some.inj (found.symm.trans found')
  exact (Except.ok.inj (launched.symm.trans launched')).symm

/-- An attempt has no reason to tell exactly if the script completed. -/
theorem Attempt.eq_none_iff {m : Machine} {reason : Option BootstrapFault} {files : FileSystem}
    (h : Attempt launch i config m reason files) :
    reason = none ↔ Completes launch i config m := by
  cases h with
  | noExecutable absent =>
    refine iff_of_false nofun fun ⟨child, _, runs, _⟩ => ?_
    obtain ⟨executable, found, -⟩ := runs.executable
    cases absent.symm.trans found
  | noScript found absent =>
    refine iff_of_false nofun fun ⟨child, _, runs, _⟩ => ?_
    cases absent.symm.trans runs.script
  | notStarted found script fails =>
    refine iff_of_false nofun fun ⟨child, _, runs, _⟩ => ?_
    obtain ⟨executable, found', launched⟩ := runs.executable
    obtain rfl := Option.some.inj (found.symm.trans found')
    cases fails.symm.trans launched
  | completed runs ends => exact iff_of_true rfl ⟨_, _, runs, ends⟩
  | complained runs ends failure =>
    refine iff_of_false nofun fun ⟨child, _, runs', ends'⟩ => failure ?_
    obtain rfl := runs.child_eq runs'
    exact congrArg Prod.snd (Option.some.inj (ends.symm.trans ends'))
  | killed runs late =>
    refine iff_of_false nofun fun ⟨child, _, runs', ends'⟩ => ?_
    obtain rfl := runs.child_eq runs'
    cases late.symm.trans ends'

/-- The attempt with the script, and the machine after the log was told of it. -/
theorem exec_tryScript (launch : Launcher) (i : Installation)
    (reaches : (trying i s).machine.clock.reaches config.bootstrapTimeout.toNat) :
    ∃ reason n files, (tryScriptWith (start launch) i config).exec s =
        (.ok reason, { s with machine := n }) ∧
      Attempt launch i config (trying i s).machine reason files ∧
      (trying i s).machine.After files n := by
  obtain ⟨r, n, files, runs, attempt, after⟩ := exists_attempt launch i reaches
  -- What follows the attempt depends on how it ended: the warning is for one that failed.
  cases r with
  | ok _ =>
    refine ⟨none, n, files, (Work.exec_bind_ok (Work.exec_tell ..)).trans ?_, attempt, after⟩
    exact Work.exec_bind_ok runs
  | error fault =>
    refine ⟨some fault, n.tell .warning ("Bootstrap script did not complete: " ++ fault.message),
      files, (Work.exec_bind_ok (Work.exec_tell ..)).trans ?_, attempt,
      after.perform (.tell .warning _)⟩
    exact Work.exec_bind_ok runs

/-- What comes of the second import. -/
theorem exec_finish (i : Installation) (reason : Option BootstrapFault) (s : Session) :
    (Imports s.inner → ((finish i reason).exec s).1 = .ok true) ∧
      (¬Imports s.inner →
        ((finish i reason).exec s).1 = .error (.error (.bootstrap i.root reason))) := by
  constructor
  · intro present
    rw [finish, Work.exec_bind_ok (exec_importable present)]
    rfl
  · intro absent
    rw [finish, Work.exec_bind_ok (exec_importable_of_not absent)]
    rfl

/-! ## The outcome -/

/-- What is promised of a bootstrap: how it ends, and which commands it starts. -/
structure Outcome (launch : Launcher) (i : Installation) (config : Config) (s : Session)
    (r : Except Failure Bool) (starts : Starts) : Prop where
  /-- The script is started at most once. -/
  once : starts.length ≤ 1
  /-- It is started only if the first import failed and both the executable and the
  script are there. -/
  only (m : Machine) (command : Command) (started : (m, command) ∈ starts) :
    ¬Imports s.inner ∧
      (tried i s).machine.interpreter? i.root i.series = some command.program ∧
      (tried i s).machine.files.isFile (scriptPath i config) = true ∧
      command = commandOf i config command.program
  never_false : r ≠ .ok false
  /-- The package installer is there at the start. -/
  present (h : Imports s.inner) : r = .ok true
  /-- It is not, and there is one attempt with the script.  Whether it can be imported
  afterwards decides, and not the script. -/
  absent (h : ¬Imports s.inner) :
    ∃ reason files n, Attempt launch i config (tried i s).machine reason files ∧
      (tried i s).machine.After files n ∧
      (Imports (again i s n) → r = .ok true) ∧
      (¬Imports (again i s n) → r = .error (.error (.bootstrap i.root reason))) ∧
      (reason = none ↔ Completes launch i config (tried i s).machine) ∧
      (HostError.bootstrap i.root reason).report = .bootstrap i.root (match reason with
        | none => "pip is still not importable after running the bootstrap script"
        | some fault => "pip is still not importable: " ++ fault.message)

theorem mem_scriptStarts {m n : Machine} {command : Command}
    (h : (n, command) ∈ scriptStarts i config m) :
    m.interpreter? i.root i.series = some command.program ∧
      m.files.isFile (scriptPath i config) = true ∧
      command = commandOf i config command.program := by
  unfold scriptStarts at h
  split at h
  · cases h
  · next executable found =>
    split at h
    · next script =>
      obtain ⟨-, rfl⟩ := Prod.mk.inj (List.mem_singleton.1 h)
      exact ⟨found, script, rfl⟩
    · cases h

theorem length_scriptStarts_le (i : Installation) (config : Config) (m : Machine) :
    (scriptStarts i config m).length ≤ 1 := by
  unfold scriptStarts
  split
  · exact Nat.zero_le _
  · split
    · exact Nat.le_refl _
    · exact Nat.zero_le _

theorem exec_install_of_importable (launch : Launcher) (config : Config)
    (present : Imports s.inner) :
    ((install launch i config).exec s).1 = .ok true :=
  congrArg Prod.fst (Work.exec_bind_ok (exec_importable present))

/-- Without the package installer, the script is tried before the end. -/
theorem exec_install_of_not (launch : Launcher) (i : Installation) (absent : ¬Imports s.inner)
    (reaches : s.machine.clock.reaches config.bootstrapTimeout.toNat) :
    ∃ reason n files, Attempt launch i config (tried i s).machine reason files ∧
      (tried i s).machine.After files n ∧
      (install launch i config).exec s =
        (finish i reason).exec { tried i s with machine := n } := by
  have reaches' : (tried i s).machine.clock.reaches config.bootstrapTimeout.toNat = true := by
    rw [clock_tried]
    exact reaches
  obtain ⟨reason, n, files, tries, attempt, after⟩ := exec_tryScript launch i reaches'
  exact ⟨reason, n, files, attempt, after,
    (Work.exec_bind_ok (exec_importable_of_not absent)).trans (Work.exec_bind_ok tries)⟩

/-- A bootstrap where the package installer is there already. -/
theorem outcome_of_importable (launch : Launcher) (i : Installation) (config : Config)
    (present : Imports s.inner) :
    Outcome launch i config s ((install launch i config).exec s).1 [] := by
  rw [exec_install_of_importable launch config present]
  exact ⟨Nat.zero_le _, fun _ _ started => (nomatch started), nofun, fun _ => rfl,
    fun absent => absurd present absent⟩

/-- A bootstrap where it is not. -/
theorem outcome_of_not (launch : Launcher) (i : Installation) (absent : ¬Imports s.inner)
    (reaches : s.machine.clock.reaches config.bootstrapTimeout.toNat) :
    Outcome launch i config s ((install launch i config).exec s).1
      (scriptStarts i config (tried i s).machine) := by
  obtain ⟨reason, n, files, attempt, after, course⟩ := exec_install_of_not launch i absent reaches
  rw [course]
  obtain ⟨well, ill⟩ := exec_finish i reason { tried i s with machine := n }
  refine ⟨length_scriptStarts_le .., fun _ _ started => ⟨absent, mem_scriptStarts started⟩, ?_,
    fun present => absurd present absent, fun _ => ⟨reason, files, n, attempt, after, well, ill,
      attempt.eq_none_iff, ?_⟩⟩
  · by_cases present : Imports ({ tried i s with machine := n } : Session).inner
    · rw [well present]
      exact nofun
    · rw [ill present]
      exact nofun
  · cases reason <;> rfl

end Bootstrap

namespace Threads

/-- A thread that is the only one comes to the end of its activity, and nobody has
the lock then. -/
theorem exists_runs_alone {σ α : Type} (a : Activity σ α) (s : σ) :
    ∃ es c, Runs (start (fun _ : Unit => a) s) es c ∧
      (c.tasks ()).result? = some (a.run false s).1 ∧
      c.marked () = false ∧ c.owner = none ∧ c.shared = (a.run false s).2 := by
  obtain ⟨es, runs⟩ := runs_alone a (start (fun _ : Unit => a) s) () s
  have first : (start (fun _ : Unit => a) s).set () (.doing a) ⟨false, none, s⟩ =
      start (fun _ : Unit => a) s := set_self ..
  rw [first] at runs
  exact ⟨es, _, runs, rfl, rfl, rfl, rfl⟩

/-- Whoever came to the end of an activity does not have the lock. -/
theorem free_of_result {ι σ α : Type} [DecidableEq ι] {activities : ι → Activity σ α} {s : σ}
    {es : List (ι × Event)} {c : Threads ι σ α} (runs : Runs (start activities s) es c) {k : ι}
    (ended : (c.tasks k).result?.isSome) : c.marked k = false ∧ c.owner ≠ some k := by
  refine (runs.kept (kept_start activities s)).disciplined.outside_free k ?_
  generalize c.tasks k = task at ended
  cases task with
  | doing a => trivial
  | _ => cases ended

end Threads

namespace Host

open Bootstrap

/-- On an interpreter that is ready and with a deadline that the clock can show, a
bootstrap has the outcome that is promised, and then the lock is free: if nobody else
has it, and for whoever called whatever others do. -/
theorem outcome_of_initPip (h : Host) (launch : Launcher) (p : Embedding)
    (ready : p.initialized.isSome)
    (reaches : p.session.machine.clock.reaches h.config.bootstrapTimeout.toNat) :
    (∃ starts, Notes (installWith (Noting.start launch) h.target h.config)
        (install launch h.target h.config) p.session starts ∧
      Outcome launch h.target h.config p.session ((h.initPip launch).run false p).1 starts) ∧
    (∃ es c, Threads.Runs (Threads.start (fun _ : Unit => h.initPip launch) p) es c ∧
      (c.tasks ()).result? = some ((h.initPip launch).run false p).1 ∧
      c.marked () = false ∧ c.owner = none) ∧
    ∀ (ι : Type) [DecidableEq ι] (activities : ι → Op Bool) (k : ι) (es : List (ι × Event))
      (c : Threads ι Embedding Bool), activities k = h.initPip launch →
      Threads.Runs (Threads.start activities p) es c → (c.tasks k).result?.isSome →
      c.marked k = false ∧ c.owner ≠ some k := by
  have same : ((h.initPip launch).run false p).1 =
      ((install launch h.target h.config).exec p.session).1 :=
    congrArg Prod.fst (Op.run_locked (install launch h.target h.config) ready)
  refine ⟨?_, ?_, fun ι _ activities k es c _ runs ended => Threads.free_of_result runs ended⟩
  · rw [same]
    by_cases present : Imports p.session.inner
    · exact ⟨_, notes_install launch h.target h.config present,
        outcome_of_importable launch h.target h.config present⟩
    · exact ⟨_, notes_install_of_not launch h.target h.config present,
        outcome_of_not launch h.target present reaches⟩
  · obtain ⟨es, c, runs, ended, marked, owner, -⟩ := Threads.exists_runs_alone (h.initPip launch) p
    exact ⟨es, c, runs, ended, marked, owner⟩

namespace Stubborn

/-- An installation whose script complains at its end, but has installed the package
installer by then. -/
def root : Path := Path.ofText "/opt"

def files : FileSystem :=
  let file (name : String) (executable : Bool) : Location × Node :=
    ([Octets.ofText "opt", Octets.ofText name], .file ⟨.program [], executable⟩)
  let python : Location × Node :=
    ([Octets.ofText "opt", Octets.ofText "bin", Octets.ofText "python3"], .file ⟨.program [], true⟩)
  ⟨[([Octets.ofText "opt"], .directory), file "get-pip.py" false,
    ([Octets.ofText "opt", Octets.ofText "bin"], .directory), python], []⟩

/-- The child installs the package installer at once and exits after a while. -/
def launch : Launcher := fun m _ =>
  let installed :=
    m.files.set [Octets.ofText "opt", Octets.ofText "pip.py"] (.file ⟨.program [], false⟩)
  .ok ⟨"7", fun _ => ⟨installed, [], []⟩, some (120, .exited 2)⟩

/-- A process that looks for modules in the root. -/
def process : Embedding :=
  { Embedding.start ⟨files, [], Log.initial, "", ⟨"", "", 0⟩⟩ "" with
    session := ⟨⟨files, [], Log.initial, "", ⟨"", "", 0⟩⟩,
      { Engine.initial "" with searchPath := ["/opt"] }⟩
    initialized := some ⟨Engine.series, root⟩ }

def host : Host := ⟨⟨root, Engine.series⟩, .ofRoot root none, none⟩

end Stubborn

open Stubborn in
/-- A script that complains may have done its work all the same. -/
theorem complaint_after_install :
    ¬Imports process.session.inner ∧
    ∃ starts, Notes (installWith (Noting.start launch) host.target host.config)
        (install launch host.target host.config) process.session starts ∧
      starts.length = 1 ∧
      Outcome launch host.target host.config process.session (.ok true) starts := by
  have given : ((host.initPip launch).run false process).1 = .ok true := rfl
  obtain ⟨⟨starts, notes, outcome⟩, -⟩ := outcome_of_initPip host launch process rfl (by decide)
  rw [given] at outcome
  refine ⟨fun ⟨home, found⟩ => (nomatch found), starts, notes, ?_, outcome⟩
  let noting : Noting Bool := installWith (Noting.start launch) host.target host.config
  calc starts.length
    _ = (noting (process.session, [])).2.2.length := by
      rw [show noting (process.session, []) = _ from notes []]
      rfl
    _ = 1 := rfl

end Host

end EmbeddedPython
