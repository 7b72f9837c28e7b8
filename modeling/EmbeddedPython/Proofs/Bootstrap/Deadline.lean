import EmbeddedPython.Proofs.Bootstrap.Schedules
import EmbeddedPython.Proofs.Toml.Configuration

/-!
# Deadlines that the clock cannot show

The deadline of a bootstrap script is reckoned after its child was started and the spinner
was put up.  When the clock cannot show that moment the host panics there: nobody takes
the spinner down, and nobody waits for the child.

* `Bootstrap.Concluded` is how a script that ran is left when the clock can show its
  deadline, and `Bootstrap.Abandoned` how it is left when the clock cannot.
* `Bootstrap.concluded_or_abandoned` says that there is no third way.
-/

namespace EmbeddedPython

namespace Watch

/-! ## A host without a deadline -/

/-- A host that cannot reckon its deadline, or that has panicked over it. -/
structure Stuck (w : Watch) : Prop where
  stage : w.stage = .reckons ∨ w.stage = .panicked
  unreaped : w.reaped = false

section Stuck

variable {child : Child} {w w' : Watch} {a : Move}

theorem Stuck.of_step (h : Stuck w) (step : Step child none w a w') : Stuck w' := by
  have unlike {stage : Stage} (at_ : w.stage = stage) (first : stage ≠ .reckons)
      (last : stage ≠ .panicked) : Stuck w' := by
    obtain reckons | panicked := h.stage
    · exact absurd (at_.symm.trans reckons) first
    · exact absurd (at_.symm.trans panicked) last
  cases step with
  | passes | takes | closes => exact ⟨h.stage, h.unreaped⟩
  | panics => exact ⟨.inr rfl, h.unreaped⟩
  | reckons _ possible => cases possible
  | dies stage | sees stage | misses stage | early stage | late stage | wakes stage | kills stage
  | reaps stage | leaves stage => exact unlike stage nofun nofun

/-- Without a deadline the host panics at once. -/
theorem progress_of_stuck (child : Child) :
    Progress child none Stuck (·.stage = .panicked) (fun _ => 0) (fun _ => .host) where
  keeps h step := h.of_step step
  able {w} h early := by
    have stage : w.stage = .reckons := h.stage.resolve_right early
    exact able_of_goes (by rw [goes, stage])
  lowers {w w' a} h early step := by
    cases a with
    | goes =>
      refine .inl ?_
      have stage : w.stage = .reckons := h.stage.resolve_right early
      cases step with
      | panics => rfl
      | reckons _ possible => cases possible
      | sees other | misses other | early other | late other | wakes other | kills other
      | reaps other | leaves other => cases stage.symm.trans other
    | passes | dies | takes | closes =>
      refine .inr (.inr ⟨rfl, rfl, ?_⟩)
      intro host
      cases host

/-- A host that cannot reckon its deadline panics, and never waits for the child. -/
theorem Schedule.abandons (σ : Schedule child none) :
    (∃ n, (σ.watch n).stage = .panicked) ∧ ∀ n, (σ.watch n).reaped = false := by
  have stuck : Stuck (σ.watch 0) := by
    rw [σ.first]
    exact ⟨.inl rfl, rfl⟩
  constructor
  · obtain ⟨n, -, panicked⟩ := σ.reaches (progress_of_stuck child) stuck
    exact ⟨n, panicked⟩
  · intro n
    exact (σ.holds_from (fun h step => h.of_step step) stuck (Nat.zero_le n)).unreaped

end Stuck

end Watch

/-! ## The spinner -/

namespace Machine

theorem spinner_finishSpinner (m : Machine) (message : String) :
    (m.finishSpinner message).log.spinner = none :=
  congrArg Log.spinner (log_tell m.stopSpinner .success message)

theorem spinner_failSpinner (m : Machine) (message : String) :
    (m.failSpinner message).log.spinner = none :=
  congrArg Log.spinner (log_tell m.stopSpinner .failure message)

end Machine

namespace Bootstrap

section Runs

open Machine

variable {launch : Launcher} {i : Installation} {config : Config} {child : Child}

/-- However a child ended, the spinner is down when its end was recorded. -/
theorem spinner_of_conclude (config : Config) (command : String) (child : Child)
    (decision : Decision) (s : Session) :
    ((conclude config command child decision).exec s).2.machine.log.spinner = none := by
  cases decision with
  | killed moment => exact spinner_failSpinner ..
  | exited status moment =>
    rw [conclude, Work.exec_bind_ok (Work.exec_changeMachine _ s),
      Work.exec_bind_ok (Work.exec_changeMachine _ _)]
    cases status.isSuccess with
    | true => exact spinner_finishSpinner ..
    | false => exact spinner_failSpinner ..

/-- A script that runs is waited for, on a machine that differs in its files at most. -/
theorem exists_exec_of_runs {s : Session} (runs : Runs launch i config s.machine child) :
    ∃ command ready, ready.clock = s.machine.clock ∧ ready.log = s.machine.log ∧
      (runScriptWith (start launch) i config).exec s =
        (waitFor config command child).exec { s with machine := ready } := by
  obtain ⟨⟨executable, found, launched⟩, script⟩ := runs
  have course := exec_runScript_of_found launch found script
  dsimp only at course
  rw [launched] at course
  exact ⟨_, _, clock_perform s.machine (.tell .debug _), log_tell .., course⟩

/-! ## How a script is left -/

/-- The host has the end of the script in hand: it says how the script ended, the spinner is
down, and however everybody moves the child was waited for. -/
structure Concluded (child : Child) (deadline : Nat)
    (outcome : Except Failure (Except BootstrapFault Unit) × Session) : Prop where
  returns : ∃ r, outcome.1 = .ok r
  stopped : outcome.2.machine.log.spinner = none
  calm : ∀ (σ : Watch.Schedule child (some deadline)) (n : Nat), (σ.watch n).stage ≠ .panicked
  waits : ∀ (σ : Watch.Schedule child (some deadline)) {n : Nat} {r : Watch.Result},
    (σ.watch n).stage = .left r → (σ.watch n).reaped = true
  ends : ∀ σ : Watch.Schedule child (some deadline), (∃ n, deadline ≤ (σ.watch n).now) →
    ∃ n r, (σ.watch n).stage = .left r ∧ Watch.Verdict child deadline (σ.watch n) r

/-- The host has panicked while the script was running: the spinner is up as it was put up
on the machine of the start, and however everybody moves nobody waits for the child. -/
structure Abandoned (child : Child) (config : Config) (s : Session)
    (outcome : Except Failure (Except BootstrapFault Unit) × Session) : Prop where
  panics : outcome.1 = .error (.panic .deadline)
  spins : outcome.2.machine.log = (spinning config s).machine.log
  hangs : ∀ σ : Watch.Schedule child none,
    (∃ n, (σ.watch n).stage = .panicked) ∧ ∀ n, (σ.watch n).reaped = false

theorem log_spinning {m : Machine} {s : Session} (same : m.log = s.machine.log) :
    (spinning config { s with machine := m }).machine.log = (spinning config s).machine.log := by
  unfold spinning startSpinner
  dsimp only
  rw [same]
  split
  · exact same
  · rfl

/-- However everybody moves about a child that has a deadline, it is waited for. -/
theorem concluded_of_returns (grows : child.Grows) {deadline : Nat}
    {outcome : Except Failure (Except BootstrapFault Unit) × Session}
    (returns : ∃ r, outcome.1 = .ok r) (stopped : outcome.2.machine.log.spinner = none) :
    Concluded child deadline outcome where
  returns := returns
  stopped := stopped
  calm σ n := (σ.sound grows n).not_panicked
  waits σ n r left := by
    rw [(σ.sound grows n).settled.reaped, left]
    rfl
  ends σ comes := σ.exists_verdict grows comes

theorem concluded_of_reaches (grows : child.Grows) {s : Session}
    (runs : Runs launch i config s.machine child)
    (reaches : s.machine.clock.reaches config.bootstrapTimeout.toNat = true) (moment : Nat) :
    Concluded child (moment + deadline config)
      ((runScriptWith (start launch) i config).exec s) := by
  obtain ⟨command, ready, clock, -, course⟩ := exists_exec_of_runs runs
  have waits := course.trans (exec_waitFor_eq config command child _)
  dsimp only at waits
  rw [clock, if_pos reaches] at waits
  obtain ⟨r, n, concludes, -⟩ := exec_conclude config command child
    (Wait.decide child (deadline config)) (.refl (spinning config { s with machine := ready }).machine)
  refine concluded_of_returns grows ⟨r, ?_⟩ ?_
  · exact congrArg Prod.fst (waits.trans concludes)
  · rw [waits]
    exact spinner_of_conclude ..

theorem abandoned_of_not_reaches {s : Session} (runs : Runs launch i config s.machine child)
    (unreached : s.machine.clock.reaches config.bootstrapTimeout.toNat = false) :
    Abandoned child config s ((runScriptWith (start launch) i config).exec s) := by
  obtain ⟨command, ready, clock, log, course⟩ := exists_exec_of_runs runs
  have waits := course.trans (exec_waitFor_eq config command child _)
  dsimp only at waits
  rw [clock, if_neg (Bool.eq_false_iff.1 unreached)] at waits
  exact ⟨congrArg Prod.fst waits, (congrArg (·.2.machine.log) waits).trans (log_spinning log),
    fun σ => σ.abandons⟩

/-- A script that ran is concluded if the clock can show its deadline, at whatever moment
that is reckoned, and abandoned if it cannot. -/
theorem concluded_or_abandoned (grows : child.Grows) {s : Session}
    (runs : Runs launch i config s.machine child) :
    let outcome := (runScriptWith (start launch) i config).exec s
    let reaches := s.machine.clock.reaches config.bootstrapTimeout.toNat
    (reaches = true → ∀ moment, Concluded child (moment + deadline config) outcome) ∧
      (reaches = false → Abandoned child config s outcome) :=
  ⟨concluded_of_reaches grows runs, abandoned_of_not_reaches runs⟩

end Runs

namespace Quick

/-- An installation with a bootstrap script. -/
def installation : Installation := ⟨Path.ofText "/opt", Engine.series⟩

def files : FileSystem :=
  let entry (names : List String) (node : Node) : Location × Node :=
    (names.map Octets.ofText, node)
  ⟨[entry ["opt"] .directory, entry ["opt", "bin"] .directory,
    entry ["opt", "bin", "python3"] (.file ⟨.program [], true⟩),
    entry ["opt", "get-pip.py"] (.file ⟨.program [], false⟩)], []⟩

def session : Session := ⟨⟨files, [], Log.initial, "", ⟨"", "", 1⟩⟩, .initial ""⟩

/-- The script complains at once. -/
def child : Child := ⟨"7", fun _ => ⟨files, [], []⟩, some (0, .exited 2)⟩

def launch : Launcher := fun _ _ => .ok child

/-- The settings with a time for the script. -/
def lasting (seconds : UInt64) : Config :=
  { Config.ofRoot installation.root none with bootstrapTimeout := seconds }

theorem grows : child.Grows := fun _ _ _ _ => List.prefix_refl _

theorem runs (seconds : UInt64) :
    Runs launch installation (lasting seconds) session.machine child where
  executable := ⟨Path.ofText "/opt/bin/python3", by decide +kernel, rfl⟩
  script := by
    have there : files.isFile (Path.ofText "/opt" / "get-pip.py") = true := by decide +kernel
    exact there

end Quick

open Quick in
/-- A child that is quick enough is concluded within the usual time, and abandoned all the
same with a time that the clock cannot show. -/
theorem quick_child_is_left :
    (child.Grows ∧ Runs launch installation (lasting 300) session.machine child ∧
      Concluded child (20 + 300000)
        ((runScriptWith (start launch) installation (lasting 300)).exec session)) ∧
    Runs launch installation (lasting 9223372036854775807) session.machine child ∧
      Abandoned child (lasting 9223372036854775807) session
        ((runScriptWith (start launch) installation (lasting 9223372036854775807)).exec session) :=
  ⟨⟨grows, runs 300, (concluded_or_abandoned grows (runs 300)).1 (by decide) 20⟩,
    runs _, (concluded_or_abandoned grows (runs _)).2 (by decide +kernel)⟩

open Quick in
/-- Settings that are read from a file make the host panic over a child that has ended, which
nobody waits for, with the spinner up. -/
theorem huge_timeout_abandons_child :
    let config := lasting 18446744073709551615
    let outcome := (runScriptWith (start launch) installation config).exec session
    (∃ text, Config.ofText text = .ok config) ∧
      Runs launch installation config session.machine child ∧
      outcome.1 = .error (.panic .deadline) ∧
      outcome.2.machine.log.spinner = some "Running get-pip.py" ∧
      ∃ σ : Watch.Schedule child none, ∀ n, (σ.watch n).reaped = false := by
  intro config outcome
  have readable : config.document?.isSome :=
    (Config.document?_isSome config).trans (by decide +kernel)
  obtain ⟨text, written⟩ := Option.isSome_iff_exists.1 readable
  have abandoned : Abandoned child config session outcome :=
    abandoned_of_not_reaches (runs _) (by decide +kernel)
  have quiet : Watch.Quiet none
      (Watch.afterMoves child none [.goes, .closes .output, .closes .errors] 3) :=
    ⟨rfl, by decide, by rintro (_ | _) <;> rfl, rfl⟩
  exact ⟨⟨text, Config.ofText_document written⟩, runs _, abandoned.panics,
    congrArg Log.spinner abandoned.spins, .ofMoves _ (by decide) quiet, (abandoned.hangs _).2⟩

end Bootstrap

end EmbeddedPython
