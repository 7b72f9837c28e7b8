import EmbeddedPython.Proofs.Calls.Sessions
import EmbeddedPython.Proofs.Logging.Calls

/-!
# How the bootstrap script can end

The bootstrap script is missing, or its executable is, or it cannot be started, or it
ends by itself in time, without a complaint or with one, or it is killed at the
deadline.  `Bootstrap.Attempt` says which of these it is from the machine and the
launcher alone, and which files are left.

* `Wait.decide_eq` is how waiting ends: by the end of the child if that is in time,
  and at the deadline otherwise.
* `Machine.After` says that the host did no more to a machine than to take over some
  files and to write to its log.
* `Bootstrap.exists_attempt` is that trying the script is one of the attempts.
-/

namespace EmbeddedPython

/-! ## Waiting -/

/-- Whoever looks later finds the same end. -/
theorem Child.endedBy?_of_le {child : Child} {early late : Nat} (le : early ≤ late)
    {ended : Nat × ExitStatus} (h : child.endedBy? early = some ended) :
    child.endedBy? late = some ended := by
  unfold endedBy? at h ⊢
  split at h
  · split at h
    · next last status inTime =>
      rw [if_pos (Nat.le_trans inTime le)]
      exact h
    · cases h
  · cases h

namespace Wait

/-- What becomes of a child that has until a deadline. -/
def fate (child : Child) (deadline : Nat) : Decision :=
  match child.endedBy? deadline with
  | some (moment, status) => .exited status moment
  | none => .killed deadline

/-- The looks from the `k`th on find the end of the child, or come to the deadline at
the `last` one. -/
theorem decideFrom_eq (child : Child) {last count k : Nat} (before : k ≤ last)
    (enough : last < k + count) :
    decideFrom child (interval * last) regular count k = some (fate child (interval * last)) := by
  induction count generalizing k with
  | zero => omega
  | succ count ih =>
    have le : interval * k ≤ interval * last := Nat.mul_le_mul_left _ before
    unfold decideFrom regular
    dsimp only
    cases found : child.endedBy? (interval * k) with
    | some ended => rw [fate, Child.endedBy?_of_le le found]
    | none =>
      dsimp only
      split
      · next reached =>
        obtain same : interval * k = interval * last := Nat.le_antisymm le reached
        rw [fate, ← same, found]
      · next early =>
        have more : k ≠ last := by
          rintro rfl
          exact early (Nat.le_refl _)
        exact ih (Nat.lt_of_le_of_ne before more) (by omega)

/-- A child that ends in time has ended, and any other one is killed at the deadline. -/
theorem decide_eq (child : Child) (last : Nat) :
    decide child (interval * last) = fate child (interval * last) := by
  have enough : last < 0 + enough (interval * last) := by
    rw [Wait.enough, Nat.mul_div_cancel_left last (by decide)]
    omega
  rw [decide, decideFrom_eq child (Nat.zero_le _) enough]
  rfl

end Wait

/-! ## What the host does to the machine -/

namespace Machine

variable {m n : Machine} {files : FileSystem}

@[simp]
theorem clock_perform (m : Machine) (call : LogCall) : (m.perform call).clock = m.clock := by
  have told (m : Machine) (level : Log.Level) (message : String) :
      (m.tell level message).clock = m.clock := by
    unfold tell
    dsimp only
    split <;> exact clock_record ..
  have recorded (m : Machine) (records : List Log.Record) :
      (records.foldl record m).clock = m.clock := by
    induction records generalizing m with
    | nil => rfl
    | cons r rest ih => exact (ih (m.record r)).trans (clock_record m r)
  cases call with
  | tell level message => exact told m level message
  | recordStreams | recordEnd => exact recorded m _
  | startSpinner message =>
    unfold perform startSpinner
    dsimp only
    split <;> rfl
  | finishSpinner message => exact told m.stopSpinner .success message
  | failSpinner message => exact told m.stopSpinner .failure message
  | stopSpinner | setForwards | setQuiet => rfl

/-- A machine is another one on which some files were left, and on which the host has
done nothing since but to tell its log. -/
structure After (m : Machine) (files : FileSystem) (n : Machine) : Prop where
  files : ∃ entries, n.files = entered m.log files entries
  path : n.log.path = m.log.path
  clock : n.clock = m.clock

namespace After

theorem refl (m : Machine) : After m m.files m := ⟨⟨[], (entered_nil ..).symm⟩, rfl, rfl⟩

theorem perform (h : After m files n) (call : LogCall) : After m files (n.perform call) := by
  have adds := adds_perform n call
  obtain ⟨entries, same⟩ := h.files
  refine ⟨⟨entries ++ n.stamped call.entries, ?_⟩, adds.path.trans h.path,
    (clock_perform n call).trans h.clock⟩
  rw [adds.files, same, entered_of_path h.path, entered_append]

/-- Files are left by someone else. -/
theorem replace (h : After m files n) (left : FileSystem) :
    After m left { n with files := left } :=
  ⟨⟨[], (entered_nil ..).symm⟩, h.path, h.clock⟩

end After

end Machine

namespace Bootstrap

open Machine

variable {launch : Launcher} {i : Installation} {config : Config} {m : Machine}

/-! ## Attempts -/

/-- The moment at which the script is killed. -/
def deadline (config : Config) : Nat := 1000 * config.bootstrapTimeout.toNat

/-- The machine that a command is started on. -/
def launching (m : Machine) (command : Command) : Machine :=
  m.tell .debug ("Running: " ++ command.quoted)

/-- The script runs on a machine as a child. -/
structure Runs (launch : Launcher) (i : Installation) (config : Config) (m : Machine)
    (child : Child) : Prop where
  executable : ∃ executable, m.interpreter? i.root i.series = some executable ∧
    launch (launching m (commandOf i config executable)) (commandOf i config executable) = .ok child
  script : m.files.isFile (scriptPath i config) = true

/-- The ways in which the script can be tried on a machine: why it did not succeed if it
did not, and the files that are there then. -/
inductive Attempt (launch : Launcher) (i : Installation) (config : Config) (m : Machine) :
    Option BootstrapFault → FileSystem → Prop
  | noExecutable (absent : m.interpreter? i.root i.series = none) :
    Attempt launch i config m (some (.noExecutable i.series)) m.files
  | noScript {executable : Path} (found : m.interpreter? i.root i.series = some executable)
      (absent : m.files.isFile (scriptPath i config) = false) :
    Attempt launch i config m (some (.noScript (scriptPath i config))) m.files
  | notStarted {executable : Path} {fault : FileFault}
      (found : m.interpreter? i.root i.series = some executable)
      (script : m.files.isFile (scriptPath i config) = true)
      (fails : launch (launching m (commandOf i config executable))
        (commandOf i config executable) = .error fault) :
    Attempt launch i config m (some (.notStarted executable fault)) m.files
  | completed {child : Child} {moment : Nat} (runs : Runs launch i config m child)
      (ends : child.endedBy? (deadline config) = some (moment, .exited 0)) :
    Attempt launch i config m none (child.doings moment).files
  | complained {child : Child} {moment : Nat} {status : ExitStatus}
      (runs : Runs launch i config m child)
      (ends : child.endedBy? (deadline config) = some (moment, status))
      (failure : status ≠ .exited 0) :
    Attempt launch i config m (some (.exited config.bootstrapScript status.text))
      (child.doings moment).files
  | killed {child : Child} (runs : Runs launch i config m child)
      (late : child.endedBy? (deadline config) = none) :
    Attempt launch i config m (some (.timedOut config.bootstrapScript config.timeoutText))
      (child.doings (deadline config)).files

/-- Why the script did not succeed, from what became of its child. -/
def reasonOf (config : Config) : Decision → Option BootstrapFault
  | .exited status _ =>
    if status = .exited 0 then none else some (.exited config.bootstrapScript status.text)
  | .killed _ => some (.timedOut config.bootstrapScript config.timeoutText)

/-- The end of a child is recorded, and the files are those that it left. -/
theorem exec_conclude (config : Config) (command : String) (child : Child) (decision : Decision)
    {s : Session} {files : FileSystem} (after : m.After files s.machine) :
    ∃ r n, (conclude config command child decision).exec s = (.ok r, { s with machine := n }) ∧
      reason? r = reasonOf config decision ∧ m.After (child.doings decision.moment).files n := by
  have left := after.replace (child.doings decision.moment).files
  cases decision with
  | exited status moment =>
    have recorded := left.perform (.recordEnd command status (child.doings moment).output
      (child.doings moment).errors)
    by_cases success : status = .exited 0
    · subst success
      exact ⟨.ok (), _, rfl, rfl, recorded.perform (.finishSpinner _)⟩
    · have complaint : status.isSuccess = false := beq_false_of_ne success
      refine ⟨.error (.exited config.bootstrapScript status.text), _, ?_, ?_,
        recorded.perform (.failSpinner (config.bootstrapScript ++ " failed"))⟩
      · rw [conclude, Work.exec_bind_ok (Work.exec_changeMachine _ s),
          Work.exec_bind_ok (Work.exec_changeMachine _ _), complaint]
        rfl
      · rw [reasonOf, if_neg success]
        rfl
  | killed moment =>
    exact ⟨.error (.timedOut config.bootstrapScript config.timeoutText), _, rfl, rfl,
      ((left.perform (.tell .warning _)).perform (.recordStreams command none _ _)).perform
        (.failSpinner _)⟩

/-- What becomes of the script once it runs. -/
theorem attempt_of_runs {child : Child} (runs : Runs launch i config m child) :
    Attempt launch i config m (reasonOf config (Wait.fate child (deadline config)))
      (child.doings (Wait.fate child (deadline config)).moment).files := by
  unfold Wait.fate
  cases ends : child.endedBy? (deadline config) with
  | none => exact .killed runs ends
  | some ended =>
    obtain ⟨moment, status⟩ := ended
    dsimp only [reasonOf, Decision.moment]
    split
    · next success =>
      subst success
      exact .completed runs ends
    · next failure => exact .complained runs ends failure

/-- The session while the script runs. -/
def spinning (config : Config) (s : Session) : Session :=
  { s with machine := s.machine.startSpinner ("Running " ++ config.bootstrapScript) }

/-- The deadline is reckoned when the spinner is up. -/
theorem exec_waitFor_eq (config : Config) (command : String) (child : Child) (s : Session) :
    (waitFor config command child).exec s =
      if s.machine.clock.reaches config.bootstrapTimeout.toNat then
        (conclude config command child (Wait.decide child (deadline config))).exec
          (spinning config s)
      else (.error (.panic .deadline), spinning config s) := by
  have clock : (spinning config s).machine.clock = s.machine.clock :=
    clock_perform s.machine (.startSpinner ("Running " ++ config.bootstrapScript))
  rw [waitFor, Work.exec_bind_ok (Work.exec_changeMachine _ s)]
  dsimp only
  rw [Work.exec_bind_ok (Work.exec_machine _)]
  dsimp only [spinning] at clock ⊢
  rw [clock]
  cases s.machine.clock.reaches config.bootstrapTimeout.toNat <;> rfl

/-- A child is waited for until the deadline. -/
theorem exec_waitFor (config : Config) (command : String) (child : Child) {s : Session}
    {files : FileSystem} (after : m.After files s.machine)
    (reaches : m.clock.reaches config.bootstrapTimeout.toNat) :
    let fate := Wait.fate child (deadline config)
    ∃ r n, (waitFor config command child).exec s = (.ok r, { s with machine := n }) ∧
      reason? r = reasonOf config fate ∧ m.After (child.doings fate.moment).files n := by
  intro fate
  have decided : Wait.decide child (deadline config) = fate := by
    have whole : deadline config = Wait.interval * (20 * config.bootstrapTimeout.toNat) := by
      rw [deadline, Wait.interval]
      omega
    dsimp only [fate]
    rw [whole, Wait.decide_eq]
  have reaches' : s.machine.clock.reaches config.bootstrapTimeout.toNat = true := by
    rw [after.clock]
    exact reaches
  rw [exec_waitFor_eq, if_pos reaches', decided]
  exact exec_conclude config command child fate (s := spinning config s)
    (after.perform (.startSpinner ("Running " ++ config.bootstrapScript)))

/-- The script is run by the executable that was found, if it is there. -/
theorem exec_runScript_of_found (launch : Launcher) {executable : Path} {s : Session}
    (found : s.machine.interpreter? i.root i.series = some executable)
    (script : s.machine.files.isFile (scriptPath i config) = true) :
    (runScriptWith (start launch) i config).exec s =
      let command := commandOf i config executable
      let ready := launching s.machine command
      match launch ready command with
      | .error fault => (.ok (.error (.notStarted executable fault)), { s with machine := ready })
      | .ok child =>
        (waitFor config (commandName config executable) child).exec
          { s with machine := ready } := by
  refine (Work.exec_bind_ok (Work.exec_machine s)).trans ?_
  rw [found]
  dsimp only
  rw [script]
  refine (Work.exec_bind_ok (Work.exec_tell ..)).trans ?_
  refine (Work.exec_bind_ok (w := start launch _) rfl).trans ?_
  dsimp only [launching]
  cases launch (s.machine.tell .debug ("Running: " ++ (commandOf i config executable).quoted))
    (commandOf i config executable) <;> rfl

/-- Trying the script on a machine is one of the attempts. -/
theorem exists_attempt (launch : Launcher) (i : Installation) {s : Session}
    (reaches : s.machine.clock.reaches config.bootstrapTimeout.toNat) :
    ∃ r n files, (runScriptWith (start launch) i config).exec s = (.ok r, { s with machine := n }) ∧
      Attempt launch i config s.machine (reason? r) files ∧ s.machine.After files n := by
  cases found : s.machine.interpreter? i.root i.series with
  | none =>
    refine ⟨.error (.noExecutable i.series), s.machine, s.machine.files, ?_, .noExecutable found,
      .refl _⟩
    refine (Work.exec_bind_ok (Work.exec_machine s)).trans ?_
    rw [found]
    rfl
  | some executable =>
    cases script : s.machine.files.isFile (scriptPath i config) with
    | false =>
      refine ⟨.error (.noScript (scriptPath i config)), s.machine, s.machine.files, ?_,
        .noScript found script, .refl _⟩
      refine (Work.exec_bind_ok (Work.exec_machine s)).trans ?_
      rw [found]
      dsimp only
      rw [script]
      rfl
    | true =>
      have course := exec_runScript_of_found launch found script
      have ready := (After.refl s.machine).perform
        (.tell .debug ("Running: " ++ (commandOf i config executable).quoted))
      cases launched : launch (launching s.machine (commandOf i config executable))
          (commandOf i config executable) with
      | error fault =>
        dsimp only at course
        rw [launched] at course
        exact ⟨_, _, _, course, .notStarted found script launched, ready⟩
      | ok child =>
        dsimp only at course
        rw [launched] at course
        obtain ⟨r, n, waits, reason, after⟩ := exec_waitFor config
          (commandName config executable) child
          (s := { s with machine := launching s.machine (commandOf i config executable) })
          ready reaches
        refine ⟨r, n, _, course.trans waits, ?_, after⟩
        rw [reason]
        exact attempt_of_runs ⟨⟨executable, found, launched⟩, script⟩

end Bootstrap

end EmbeddedPython
