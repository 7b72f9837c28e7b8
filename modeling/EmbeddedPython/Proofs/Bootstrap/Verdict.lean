import EmbeddedPython.Proofs.Bootstrap.Watch
import Mathlib.Data.List.Basic
import Mathlib.Data.List.GetD

/-!
# What a host knows of a child in the end

`Watch.Verdict` is all that a host may rely on that is through with a child: what it
decided is what `Wait.decideFrom` decides on the looks that it made, its polls were told
the truth, it killed the child only for a good reason, and it has every octet that the
child wrote.

* `Wait.exists_decision` is that looks decide once they come to the deadline, and how.
* `Watch.deliberate_of_sound` is about killing alone, at any time.
* `Watch.verdict_of_left` is the verdict of a host that is through.
-/

namespace EmbeddedPython

/-- The status that was found, if the child was not killed. -/
def Decision.status? : Decision → Option ExitStatus
  | exited status _ => some status
  | killed _ => none

namespace Wait

variable {child : Child} {deadline : Nat}

/-- The looks of a list, one after the other. -/
def inTurn (looks : List Look) (k : Nat) : Look := looks.getD k ⟨0, 0⟩

/-- Looks that find nothing decide nothing. -/
theorem decideFrom_of_idle {looks : Nat → Look} {idle count k : Nat}
    (h : ∀ j, k ≤ j → j < k + idle → Watch.Idle child (some deadline) (looks j)) :
    decideFrom child deadline looks (idle + count) k =
      decideFrom child deadline looks count (k + idle) := by
  induction idle generalizing k with
  | zero => rw [Nat.zero_add, Nat.add_zero]
  | succ idle ih =>
    have first := h k (Nat.le_refl k) (by omega)
    have early : ¬ deadline ≤ (looks k).read := Nat.not_le.2 (first.early deadline rfl)
    have rest := ih (k := k + 1) fun j from_ to_ => h j (by omega) (by omega)
    rw [show idle + 1 + count = (idle + count) + 1 by omega, decideFrom, first.running]
    dsimp only
    rw [if_neg early, rest, show k + 1 + idle = k + (idle + 1) by omega]

/-- The last of some looks decides if the others find nothing. -/
theorem decideFrom_inTurn {rounds : List Look} {final : Look}
    (idle : ∀ look ∈ rounds, Watch.Idle child (some deadline) look) :
    decideFrom child deadline (inTurn (rounds ++ [final])) (rounds ++ [final]).length 0 =
      decideFrom child deadline (fun _ => final) 1 0 := by
  have before (j : Nat) (_ : 0 ≤ j) (to_ : j < 0 + rounds.length) :
      Watch.Idle child (some deadline) (inTurn (rounds ++ [final]) j) := by
    rw [Nat.zero_add] at to_
    rw [inTurn, List.getD_append _ _ _ _ to_, List.getD_eq_getElem _ _ to_]
    exact idle _ (List.getElem_mem to_)
  have last : inTurn (rounds ++ [final]) rounds.length = final := by
    rw [inTurn, List.getD_append_right _ _ _ _ (Nat.le_refl _), Nat.sub_self]
    rfl
  rw [List.length_append, List.length_singleton, decideFrom_of_idle before, Nat.zero_add]
  unfold decideFrom
  rw [last]
  rfl

/-- What a decision on a row of looks says: nothing was found before the look that made it,
which saw the end of the child, or did not see it but the deadline. -/
inductive Decides (child : Child) (deadline : Nat) (looks : Nat → Look) : Decision → Prop
  | exited {k moment : Nat} {status : ExitStatus}
      (idle : ∀ j < k, Watch.Idle child (some deadline) (looks j))
      (seen : child.endedBy? (looks k).polled = some (moment, status)) :
    Decides child deadline looks (.exited status moment)
  | killed {k : Nat} (idle : ∀ j < k, Watch.Idle child (some deadline) (looks j))
      (late : Watch.Late child (some deadline) (looks k)) :
    Decides child deadline looks (.killed (looks k).read)

/-- One of the looks from the `k`th on decides if the last of them sees the deadline. -/
theorem exists_decision {looks : Nat → Look} {k count : Nat}
    (idle : ∀ j < k, Watch.Idle child (some deadline) (looks j))
    (late : deadline ≤ (looks (k + count)).read) :
    ∃ decision, decideFrom child deadline looks (count + 1) k = some decision ∧
      Decides child deadline looks decision := by
  induction count generalizing k with
  | zero =>
    rw [decideFrom]
    cases found : child.endedBy? (looks k).polled with
    | some ended => exact ⟨_, rfl, .exited idle found⟩
    | none => exact ⟨_, if_pos late, .killed idle ⟨found, deadline, rfl, late⟩⟩
  | succ count ih =>
    rw [decideFrom]
    cases found : child.endedBy? (looks k).polled with
    | some ended => exact ⟨_, rfl, .exited idle found⟩
    | none =>
      dsimp only
      by_cases reached : deadline ≤ (looks k).read
      · rw [if_pos reached]
        exact ⟨_, rfl, .killed idle ⟨found, deadline, rfl, reached⟩⟩
      · rw [if_neg reached]
        have early : ∀ limit ∈ some deadline, (looks k).read < limit := by
          rintro _ ⟨⟩
          exact Nat.lt_of_not_le reached
        refine ih (fun j before => ?_) (by rwa [Nat.add_right_comm, Nat.add_assoc])
        obtain before | rfl := Nat.lt_succ_iff_lt_or_eq.1 before
        · exact idle j before
        · exact ⟨found, early⟩

end Wait

namespace Watch

/-- What was read of a stream. -/
def Result.stream (r : Result) : Stream → Octets
  | .output => r.output
  | .errors => r.errors

/-- The looks that a host made.  One that sees the end of the child does not read the
clock any more. -/
def looksOf : List Deed → List Wait.Look
  | .polled polled none :: .looked read :: rest => ⟨polled, read⟩ :: looksOf rest
  | .polled polled (some _) :: _ => [⟨polled, polled⟩]
  | _ => []

/-- A child is killed only after a poll found it running and the clock then showed the
deadline, and only once. -/
def Deliberate (deadline : Nat) (deeds : List Deed) : Prop :=
  ∀ {before after : List Deed} {moment : Nat}, deeds = before ++ .killed moment :: after →
    (∃ earlier polled read, before = earlier ++ [.polled polled none, .looked read] ∧
      deadline ≤ read) ∧
    ∀ again, .killed again ∉ before ++ after

/-- What a host that is through has done, and what it knows. -/
structure Verdict (child : Child) (deadline : Nat) (w : Watch) (r : Result) : Prop where
  /-- The looks that were made decide so. -/
  decided : ∃ decision, decision.status? = r.status ∧
    Wait.decideFrom child deadline (Wait.inTurn (looksOf w.deeds)) (looksOf w.deeds).length 0 =
      some decision
  /-- A poll shows the status of a child that has ended, and nothing before. -/
  polls : ∀ {moment : Nat} {seen : Option ExitStatus}, .polled moment seen ∈ w.deeds →
    seen = (child.endedBy? moment).map Prod.snd
  exited : ∀ {status : ExitStatus},
    r.status = some status ↔ ∃ moment, .polled moment (some status) ∈ w.deeds
  timedOut : r.status = none ↔ ∃ moment, .killed moment ∈ w.deeds
  deliberate : Deliberate deadline w.deeds
  reaped : w.reaped = true
  /-- What was read is what the child wrote before its end. -/
  octets : ∃ moment status, w.ended = some (moment, status) ∧ EndedAt child w moment status ∧
    (∀ seen ∈ r.status, seen = status) ∧ ∀ s, r.stream s = (child.doings moment).stream s

section Deeds

variable {child : Child} {limit : Option Nat} {deadline : Nat} {stage : Stage} {deeds : List Deed}

theorem polled_mem_deedsOf {rounds : List Wait.Look} {moment : Nat} {seen : Option ExitStatus} :
    .polled moment seen ∈ deedsOf rounds ↔ seen = none ∧ ∃ look ∈ rounds, look.polled = moment := by
  simp only [deedsOf, List.mem_flatMap, List.mem_cons, List.not_mem_nil, or_false,
    Deed.polled.injEq, reduceCtorEq]
  constructor
  · rintro ⟨look, mem, rfl, rfl⟩
    exact ⟨rfl, look, mem, rfl⟩
  · rintro ⟨rfl, look, mem, rfl⟩
    exact ⟨look, mem, rfl, rfl⟩

theorem looksOf_deedsOf_append (rounds : List Wait.Look) (deeds : List Deed) :
    looksOf (deedsOf rounds ++ deeds) = rounds ++ looksOf deeds := by
  induction rounds with
  | nil => rfl
  | cons look rest ih => exact congrArg (look :: ·) ih

/-- Rounds in which the child was found running. -/
theorem polls_of_running {rounds : List Wait.Look}
    (running : ∀ look ∈ rounds, child.endedBy? look.polled = none) {moment : Nat}
    {seen : Option ExitStatus} (mem : .polled moment seen ∈ deedsOf rounds) :
    seen = (child.endedBy? moment).map Prod.snd := by
  obtain ⟨rfl, look, found, rfl⟩ := polled_mem_deedsOf.1 mem
  rw [running look found]
  rfl

theorem running_append {rounds : List Wait.Look} {final : Wait.Look}
    (idle : ∀ look ∈ rounds, Idle child limit look) (late : Late child limit final) :
    ∀ look ∈ rounds ++ [final], child.endedBy? look.polled = none :=
  List.forall_mem_append.2
    ⟨fun look mem => (idle look mem).running, List.forall_mem_singleton.2 late.running⟩

/-- The only thing that a host does before it kills is going round. -/
theorem Course.killed (course : Course child limit stage deeds) :
    (∀ moment, .killed moment ∉ deeds) ∨
      ∃ rounds final moment rest, Late child limit final ∧
        deeds = deedsOf (rounds ++ [final]) ++ .killed moment :: rest ∧
        ∀ again, .killed again ∉ rest := by
  induction course with
  | reckons done | panicked done =>
    subst done
    exact .inl fun _ => List.not_mem_nil
  | polls done | sleeps done | kills done =>
    subst done
    exact .inl fun _ => killed_not_mem_deedsOf
  | looks done | exited done =>
    subst done
    refine .inl fun moment mem => ?_
    obtain mem | mem := List.mem_append.1 mem
    · exact killed_not_mem_deedsOf mem
    · cases List.mem_singleton.1 mem
  | reaps done idle late => exact .inr ⟨_, _, _, _, late, done, fun _ => List.not_mem_nil⟩
  | timedOut done idle late =>
    refine .inr ⟨_, _, _, _, late, done, fun again mem => ?_⟩
    cases List.mem_singleton.1 mem
  | left _ ih => exact ih

theorem Course.deliberate (course : Course child (some deadline) stage deeds) :
    Deliberate deadline deeds := by
  intro before after moment same
  obtain none | ⟨rounds, final, first, rest, late, done, once⟩ := course.killed
  · refine absurd ?_ (none moment)
    rw [same]
    exact List.mem_append_right _ List.mem_cons_self
  · rw [done] at same
    obtain ⟨rfl, -, rfl⟩ :=
      (List.append_cons_inj_of_notMem killed_not_mem_deedsOf (once moment)).1 same
    obtain ⟨_, ⟨⟩, le⟩ := late.late
    refine ⟨⟨deedsOf rounds, final.polled, final.read, deedsOf_append .., le⟩, ?_⟩
    intro again mem
    obtain mem | mem := List.mem_append.1 mem
    · exact killed_not_mem_deedsOf mem
    · exact once again mem

theorem Course.polls_true (course : Course child limit stage deeds) {moment : Nat}
    {seen : Option ExitStatus} (mem : .polled moment seen ∈ deeds) :
    seen = (child.endedBy? moment).map Prod.snd := by
  induction course with
  | reckons done | panicked done =>
    subst done
    cases mem
  | polls done idle | sleeps done idle =>
    subst done
    exact polls_of_running (fun look mem => (idle look mem).running) mem
  | kills done idle late =>
    subst done
    exact polls_of_running (running_append idle late) mem
  | looks done idle running =>
    subst done
    obtain mem | mem := List.mem_append.1 mem
    · exact polls_of_running (fun look mem => (idle look mem).running) mem
    · cases List.mem_singleton.1 mem
      rw [running]
      rfl
  | exited done idle found =>
    subst done
    obtain mem | mem := List.mem_append.1 mem
    · exact polls_of_running (fun look mem => (idle look mem).running) mem
    · cases List.mem_singleton.1 mem
      rw [found]
      rfl
  | reaps done idle late | timedOut done idle late =>
    subst done
    obtain mem | mem := List.mem_append.1 mem
    · exact polls_of_running (running_append idle late) mem
    · exact absurd mem (by simp)
  | left _ ih => exact ih mem

end Deeds

section Through

variable {child : Child} {deadline : Nat} {w : Watch} {r : Result}

theorem deliberate_of_sound (h : Sound child (some deadline) w) : Deliberate deadline w.deeds :=
  h.course.deliberate

/-- The last look sees the end of the child, or the deadline. -/
theorem Course.decides {known : Option ExitStatus} {deeds : List Deed}
    (course : Course child (some deadline) (.gathers known) deeds) :
    ∃ decision, decision.status? = known ∧
      Wait.decideFrom child deadline (Wait.inTurn (looksOf deeds)) (looksOf deeds).length 0 =
        some decision := by
  cases course with
  | @exited _ rounds polled last status done idle seen =>
    have looks : looksOf deeds = rounds ++ [⟨polled, polled⟩] := by
      rw [done, looksOf_deedsOf_append]
      rfl
    refine ⟨.exited status last, rfl, ?_⟩
    rw [looks, Wait.decideFrom_inTurn idle, Wait.decideFrom, seen]
  | @timedOut _ rounds final moment last done idle late =>
    have looks : looksOf deeds = rounds ++ [final] := by
      rw [done, looksOf_deedsOf_append]
      exact List.append_nil _
    obtain ⟨_, ⟨⟩, le⟩ := late.late
    refine ⟨.killed final.read, rfl, ?_⟩
    rw [looks, Wait.decideFrom_inTurn idle, Wait.decideFrom, late.running]
    exact if_pos le

/-- The host knows a status exactly if a poll showed it. -/
theorem Course.exited_iff {known : Option ExitStatus} {deeds : List Deed}
    (course : Course child (some deadline) (.gathers known) deeds) {status : ExitStatus} :
    known = some status ↔ ∃ moment, .polled moment (some status) ∈ deeds := by
  cases course with
  | @exited _ rounds polled last seen done =>
    subst done
    constructor
    · rintro ⟨⟩
      exact ⟨polled, List.mem_append_right _ (List.mem_singleton_self _)⟩
    · rintro ⟨moment, mem⟩
      obtain mem | mem := List.mem_append.1 mem
      · cases (polled_mem_deedsOf.1 mem).1
      · cases List.mem_singleton.1 mem
        rfl
  | timedOut done =>
    subst done
    refine ⟨nofun, ?_⟩
    rintro ⟨moment, mem⟩
    obtain mem | mem := List.mem_append.1 mem
    · cases (polled_mem_deedsOf.1 mem).1
    · exact absurd mem (by simp)

/-- The host knows of no status exactly if it killed the child. -/
theorem Course.timedOut_iff {known : Option ExitStatus} {deeds : List Deed}
    (course : Course child (some deadline) (.gathers known) deeds) :
    known = none ↔ ∃ moment, .killed moment ∈ deeds := by
  cases course with
  | exited done =>
    subst done
    refine ⟨nofun, ?_⟩
    rintro ⟨moment, mem⟩
    obtain mem | mem := List.mem_append.1 mem
    · exact absurd mem killed_not_mem_deedsOf
    · cases List.mem_singleton.1 mem
  | @timedOut _ rounds final moment last done =>
    subst done
    exact ⟨fun _ => ⟨moment, List.mem_append_right _ List.mem_cons_self⟩, fun _ => rfl⟩

/-- What was read of the streams of a child that is through is what it wrote. -/
theorem octets_of_left (drained : Drained child w) (settled : Settled w) (left : w.stage = .left r)
    {moment : Nat} {status : ExitStatus} (ended : w.ended = some (moment, status)) (s : Stream) :
    r.stream s = (child.doings moment).stream s := by
  obtain ⟨gathered, closed⟩ := settled.through left
  have read : r.stream s = (w.readers s).octets := by
    rw [gathered]
    cases s <;> rfl
  rw [read, (drained.whole s (closed s)).2, written, last_of_ended ended]

/-- A host that is through has a verdict. -/
theorem verdict_of_left (h : Sound child (some deadline) w) (left : w.stage = .left r) :
    Verdict child deadline w r := by
  have course : Course child (some deadline) (.gathers r.status) w.deeds := by
    have course := h.course
    rw [left] at course
    cases course with
    | left course => exact course
  have known : w.stage.known? = some r.status := congrArg Stage.known? left
  have reaped : w.reaped = true := by
    rw [h.settled.reaped, known]
    rfl
  obtain ⟨moment, status, ended, same⟩ := h.settled.knows known
  have octets := octets_of_left h.drained h.settled left ended
  exact ⟨course.decides, h.course.polls_true, course.exited_iff, course.timedOut_iff,
    deliberate_of_sound h, reaped,
    ⟨moment, status, ended, (h.living.ended ended).2, same, octets⟩⟩

end Through

end Watch

end EmbeddedPython
