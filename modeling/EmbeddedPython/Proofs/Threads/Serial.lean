import EmbeddedPython.Proofs.Threads.Turns

/-!
# Calls of several threads, one at a time

What comes of calls whose steps are in any order is what comes of turns
(`runs_serialize`).  The turns are the calls themselves when no script changes
between the moment it is read and its turn.

A script may change in between, and then there may be no order of the calls that
explains what comes of them (`rewritten_script_has_no_order`).
-/

namespace EmbeddedPython

/-! ## Runs -/

section Runs

variable {ι : Type} [DecidableEq ι]

/-- Files as they were at some moment of a run. -/
def Passed (c : Threads ι Embedding (List Outcome)) (es : List (ι × Event))
    (d : Threads ι Embedding (List Outcome)) (files : FileSystem) : Prop :=
  ∃ before m after, es = before ++ after ∧ Threads.Runs c before m ∧ Threads.Runs m after d ∧
    m.shared.session.machine.files = files

/-- The script that a turn runs is what the turn finds. -/
def Turn.Timely (t : Turn ι) (p : Embedding) : Prop :=
  ∀ path script, t.call = .runFile path →
    Script.ofPath p.session.machine.home? path = .ok script →
    t.files.readSource script.file = p.session.machine.files.readSource script.file

/-- What threads came to is what came of turns. -/
structure Serializes (h : Host) (calls : ι → List Call) (p : Embedding)
    (Seen : FileSystem → Prop) (c : Threads ι Embedding (List Outcome))
    (turns : List (Turn ι)) : Prop where
  /-- Each thread takes the turns of its calls in its own order. -/
  order : ∀ i, callsOf i turns = calls i
  /-- Scripts were read during the run. -/
  seen : ∀ t ∈ turns, Seen t.files
  results : ∀ i, c.tasks i = .doing (.ends (.ok (ofThread i (h.takeTurns turns p).1)))
  final : c.shared = (h.takeTurns turns p).2
  /-- If no script has changed by its turn, the turns are the calls. -/
  timely : (∀ before t after, turns = before ++ t :: after →
      t.Timely (h.takeTurns before p).2) →
    h.takeTurns turns p = serially (turns.map fun t => (t.thread, t.call.op h)) p

omit [DecidableEq ι] in
/-- Turns that find the scripts as they were read do what the calls do. -/
theorem takeTurns_of_timely {h : Host} {turns : List (Turn ι)} {p : Embedding}
    (timely : ∀ before t after, turns = before ++ t :: after →
      t.Timely (h.takeTurns before p).2) :
    h.takeTurns turns p = serially (turns.map fun t => (t.thread, t.call.op h)) p := by
  induction turns generalizing p with
  | nil => rfl
  | cons t rest ih =>
    have first : (t.call.opSeeing h t.files).run false p = (t.call.op h).run false p :=
      Call.run_opSeeing (timely [] t rest rfl)
    have others := ih (p := ((t.call.opSeeing h t.files).run false p).2)
      fun before u after eq => timely (t :: before) u after (by rw [eq]; rfl)
    simp only [Host.takeTurns, List.map_cons, serially] at others ⊢
    rw [others, first]

/-- Threads that run come to where they are by turns. -/
theorem serialized_of_runs {h : Host} {calls : ι → List Call} {p : Embedding}
    {t : Settings} {n : Initialization} (silent : t.IsSilent) (ground : p.ground = (t, some n))
    {c₀ c : Threads ι Embedding (List Outcome)} {es : List (ι × Event)}
    (first : c₀ = .start (fun i => h.makeCalls [] (calls i)) p) (runs : Threads.Runs c₀ es c) :
    ∃ turns, Serialized h calls p (Passed c₀ es c) c turns := by
  induction runs with
  | refl =>
    subst first
    exact ⟨[], Threads.kept_start _ _, by simp, rfl, rfl,
      fun i => ⟨calls i, rfl, .inl rfl⟩, fun _ => rfl⟩
  | step steps last ih =>
    obtain ⟨turns, serialized⟩ := ih
    refine serialized.step silent ground last ?_ ?_
    · rintro files ⟨before, m, after, rfl, first, rest, rfl⟩
      exact ⟨before, m, _, by rw [List.append_assoc], first, rest.step last, rfl⟩
    · exact ⟨_, _, _, rfl, steps, (Threads.Runs.refl _).step last, rfl⟩

/-- However many threads share a host whose interpreter is ready, whatever calls
each of them makes, and in whatever order they take their steps: when all calls
came to an end, the results and the state are those of the calls one at a time,
in an order that every thread agrees with, where to run a script is to run what
was read of it at some moment of the run.  If no script has changed between this
moment and its turn, the results and the state are those of the calls
themselves. -/
theorem runs_serialize (h : Host) (calls : ι → List Call) (p : Embedding)
    (ready : p.initialized.isSome) (silent : p.session.machine.settings.IsSilent)
    (es : List (ι × Event)) (c : Threads ι Embedding (List Outcome))
    (runs : Threads.Runs (.start (fun i => h.makeCalls [] (calls i)) p) es c)
    (finished : ∀ i, ∃ outcomes, c.tasks i = .doing (.ends (.ok outcomes))) :
    ∃ turns, Serializes h calls p
      (Passed (.start (fun i => h.makeCalls [] (calls i)) p) es c) c turns := by
  obtain ⟨n, recorded⟩ := Option.isSome_iff_exists.mp ready
  have ground : p.ground = (p.session.machine.settings, some n) := by
    rw [← recorded]
    rfl
  obtain ⟨turns, s⟩ := serialized_of_runs silent ground rfl runs
  have ended : ∀ i, callsOf i turns = calls i ∧
      c.tasks i = .doing (.ends (.ok (ofThread i (h.takeTurns turns p).1))) := by
    intro i
    obtain ⟨outcomes, task⟩ := finished i
    obtain ⟨rest, all, place⟩ := s.places i
    rw [task] at place ⊢
    rcases place with own | ⟨way, under, -, -⟩
    · cases rest with
      | nil => exact ⟨by rw [all, List.append_nil], by rw [own]; rfl⟩
      | cons call rest => cases own
    · rename_i call rest b turn
      cases b with
      | ends r => exact absurd rfl (under r)
      | _ => cases way
  exact ⟨turns, {
    order := fun i => (ended i).1
    seen := s.visited
    results := fun i => (ended i).2
    final := s.settled fun i => by rw [(ended i).2]; exact id
    timely := takeTurns_of_timely }⟩

end Runs

/-! ## A script that is rewritten while another thread is about to run it -/

namespace Rewriting

/-- A script that emits a value. -/
def files : FileSystem :=
  ⟨[([Octets.ofText "s.py"], .file ⟨.program [.emit (.bool true)], false⟩)], []⟩

/-- A silent process whose interpreter is ready. -/
def process : Embedding :=
  { Embedding.start ⟨files, [], Log.initial, "", ⟨"", "", 0⟩⟩ "" with
    initialized := some ⟨Engine.series, ⟨[]⟩⟩ }

def host : Host := ⟨⟨⟨[]⟩, Engine.series⟩, .ofRoot ⟨[]⟩ none, none⟩

/-- One thread makes the script raise an exception, and the other one runs it. -/
def calls : Bool → List Call
  | true => [.execute (.clauses [.writeFile "s.py" "raise", .emit .none]) none]
  | false => [.runFile "s.py"]

/-- The threads before their first step. -/
def threads : Threads Bool Embedding (List Outcome) :=
  .start (fun i => host.makeCalls [] (calls i)) process

/-- The script is read, then it is rewritten, and then what was read is run. -/
def order : List Bool :=
  List.replicate 3 false ++ List.replicate 14 true ++ List.replicate 15 false

/-- The outcomes of a thread that made all its calls. -/
def outcomes? : Task Embedding (List Outcome) → Option (List Outcome)
  | .doing (.ends (.ok outcomes)) => some outcomes
  | _ => none

theorem eq_of_outcomes? {t : Task Embedding (List Outcome)} {outcomes : List Outcome}
    (h : outcomes? t = some outcomes) : t = .doing (.ends (.ok outcomes)) := by
  unfold outcomes? at h
  split at h
  · rw [Option.some.inj h]
  · cases h

/-- What is seen of an end: which calls succeeded, and the types of what was
emitted. -/
def shown (rewriter runner : List Outcome) (p : Embedding) :
    List Bool × List Bool × List String :=
  (rewriter.map fun r => r.toBool, runner.map fun r => r.toBool,
    p.session.engine.emitted.map Value.typeName)

/-- Both calls succeed, and the script is run after it was rewritten. -/
theorem run_order : ∃ es c rewriter runner, Threads.Runs threads es c ∧
    c.tasks true = .doing (.ends (.ok rewriter)) ∧
    c.tasks false = .doing (.ends (.ok runner)) ∧
    shown rewriter runner c.shared = ([true], [true], ["NoneType", "bool"]) := by
  have followed : ((threads.follow order).bind fun (_, c) =>
      (outcomes? (c.tasks true)).bind fun rewriter =>
        (outcomes? (c.tasks false)).map fun runner => shown rewriter runner c.shared) =
      some ([true], [true], ["NoneType", "bool"]) := by decide +kernel
  obtain ⟨⟨es, c⟩, runs, rest⟩ := Option.bind_eq_some_iff.mp followed
  obtain ⟨rewriter, ended, rest⟩ := Option.bind_eq_some_iff.mp rest
  obtain ⟨runner, ended', same⟩ := Option.map_eq_some_iff.mp rest
  exact ⟨es, c, rewriter, runner, Threads.runs_of_follow order runs, eq_of_outcomes? ended,
    eq_of_outcomes? ended', same⟩

/-- Two orders agree with two threads that make one call each. -/
theorem orders {β : Type} {order : List (Bool × β)} {a b : β} (ha : ofThread true order = [a])
    (hb : ofThread false order = [b]) :
    order = [(true, a), (false, b)] ∨ order = [(false, b), (true, a)] := by
  rcases order with _ | ⟨⟨i, x⟩, _ | ⟨⟨j, y⟩, rest⟩⟩
  · simp [ofThread] at ha
  · cases i <;> simp [ofThread] at ha hb
  · have none_left : rest = [] := by
      rcases rest with _ | ⟨⟨k, z⟩, rest⟩
      · rfl
      · cases i <;> cases j <;> cases k <;> simp [ofThread] at ha hb
    subst none_left
    cases i <;> cases j <;> simp [ofThread] at ha hb
    · exact .inr (by rw [ha, hb])
    · exact .inl (by rw [ha, hb])

/-- One at a time, the calls are seen to end in another way. -/
theorem not_shown {order : List (Bool × Call)} (agrees : ∀ i, ofThread i order = calls i) :
    let taken := serially (order.map fun entry => (entry.1, entry.2.op host)) process
    shown (ofThread true taken.1) (ofThread false taken.1) taken.2 ≠
      ([true], [true], ["NoneType", "bool"]) := by
  rcases orders (agrees true) (agrees false) with rfl | rfl
  · decide +kernel
  · decide +kernel

end Rewriting

/-- Two threads share a host whose interpreter is ready.  A run of their calls
ends with results and a state that no order of the calls leads to. -/
theorem rewritten_script_has_no_order :
    ∃ (h : Host) (calls : Bool → List Call) (p : Embedding) (es : List (Bool × Event))
      (c : Threads Bool Embedding (List Outcome)),
      p.initialized.isSome ∧ p.session.machine.settings.IsSilent ∧
      Threads.Runs (.start (fun i => h.makeCalls [] (calls i)) p) es c ∧
      (∀ i, ∃ outcomes, c.tasks i = .doing (.ends (.ok outcomes))) ∧
      ¬∃ order : List (Bool × Call), (∀ i, ofThread i order = calls i) ∧
        (∀ i, c.tasks i = .doing (.ends (.ok (ofThread i
          (serially (order.map fun entry => (entry.1, entry.2.op h)) p).1)))) ∧
        c.shared = (serially (order.map fun entry => (entry.1, entry.2.op h)) p).2 := by
  obtain ⟨es, c, rewriter, runner, runs, ended, ended', seen⟩ := Rewriting.run_order
  refine ⟨Rewriting.host, Rewriting.calls, Rewriting.process, es, c, rfl, ⟨rfl, .inr rfl⟩, runs,
    ?_, ?_⟩
  · intro i
    cases i with
    | true => exact ⟨_, ended⟩
    | false => exact ⟨_, ended'⟩
  · rintro ⟨order, agrees, results, final⟩
    have first := ended.symm.trans (results true)
    have second := ended'.symm.trans (results false)
    obtain rfl := Except.ok.inj (Activity.ends.inj (Task.doing.inj first))
    obtain rfl := Except.ok.inj (Activity.ends.inj (Task.doing.inj second))
    rw [final] at seen
    exact Rewriting.not_shown agrees seen

/-- The run of the two threads is by turns all the same: the script that is run
is the one that was read. -/
theorem rewritten_script_serializes :
    ∃ es c turns, Threads.Runs Rewriting.threads es c ∧
      Serializes Rewriting.host Rewriting.calls Rewriting.process
        (Passed Rewriting.threads es c) c turns := by
  obtain ⟨es, c, rewriter, runner, runs, ended, ended', -⟩ := Rewriting.run_order
  have finished : ∀ i, ∃ outcomes, c.tasks i = .doing (.ends (.ok outcomes)) := by
    intro i
    cases i with
    | true => exact ⟨_, ended⟩
    | false => exact ⟨_, ended'⟩
  obtain ⟨turns, serializes⟩ := runs_serialize Rewriting.host Rewriting.calls Rewriting.process
    rfl ⟨rfl, .inr rfl⟩ es c runs finished
  exact ⟨es, c, turns, runs, serializes⟩

end EmbeddedPython
