import EmbeddedPython.Proofs.Bootstrap.Verdict

/-!
# Every schedule of a wait

A `Watch.Schedule` says who moves when, forever: the host, the child, the two readers and
the clock take turns in any order, and nobody who can move all the time is left out
forever.

The wait ends by rank.  While it is not over some party is helpful: it can move, and goes
on to be able to until it does, and its move lowers the rank (`Schedule.reaches`).
Once the clock shows the deadline the helpful party is the host until it has killed the
child, or has seen its end; then it is the child, that has to die; then it is the readers.

* `Watch.Schedule.sound` is that what every move keeps holds all along.
* `Watch.ends_with_verdict` is that the wait ends, and how.
-/

namespace EmbeddedPython.Watch

/-- Those who move. -/
inductive Party where
  | host
  | child
  | reader (s : Stream)
deriving Repr, DecidableEq

/-- Who makes a move.  Time passes by itself. -/
def Move.party? : Move → Option Party
  | passes _ => none
  | dies => some .child
  | goes => some .host
  | takes s _ | closes s => some (.reader s)

/-- Somebody can make a move. -/
def Able (child : Child) (limit : Option Nat) (w : Watch) (p : Party) : Prop :=
  ∃ a w', a.party? = some p ∧ w.does child limit a = some w'

theorem able_of_goes {child : Child} {limit : Option Nat} {w w' : Watch}
    (goes : w.goes limit = some w') : Able child limit w .host :=
  ⟨.goes, w', rfl, goes⟩

/-- The moves of everybody, one after the other, and what comes of them. -/
structure Schedule (child : Child) (limit : Option Nat) where
  move : Nat → Move
  watch : Nat → Watch
  first : watch 0 = start child
  next : ∀ n, (watch n).does child limit (move n) = some (watch (n + 1))
  /-- Nobody who can move all the time is left out forever. -/
  fair : ∀ p n, (∀ m ≥ n, Able child limit (watch m) p) → ∃ m ≥ n, (move m).party? = some p

/-- Until a goal is reached some party is helpful: it can move, and goes on to be able to
until it does or the rank gets lower anyhow. -/
structure Progress (child : Child) (limit : Option Nat) (good goal : Watch → Prop)
    (rank : Watch → Nat) (helper : Watch → Party) : Prop where
  keeps : ∀ {w w' a}, good w → Step child limit w a w' → good w'
  able : ∀ {w}, good w → ¬goal w → Able child limit w (helper w)
  lowers : ∀ {w w' a}, good w → ¬goal w → Step child limit w a w' →
    goal w' ∨ rank w' < rank w ∨
      (rank w' = rank w ∧ helper w' = helper w ∧ a.party? ≠ some (helper w))

namespace Schedule

variable {child : Child} {limit : Option Nat}

theorem step (σ : Schedule child limit) (n : Nat) :
    Step child limit (σ.watch n) (σ.move n) (σ.watch (n + 1)) :=
  step_of_does (σ.next n)

/-- What holds at a time and is kept by every move holds from then on. -/
theorem holds_from (σ : Schedule child limit) {P : Watch → Prop}
    (keeps : ∀ {w w' a}, P w → Step child limit w a w' → P w') {n : Nat} (h : P (σ.watch n))
    {m : Nat} (le : n ≤ m) : P (σ.watch m) := by
  induction le with
  | refl => exact h
  | step _ ih => exact keeps ih (σ.step _)

theorem sound (σ : Schedule child limit) (grows : child.Grows) (n : Nat) :
    Sound child limit (σ.watch n) := by
  have first : Sound child limit (σ.watch 0) := by
    rw [σ.first]
    exact sound_start child limit
  exact σ.holds_from (fun h step => h.of_step grows step) first (Nat.zero_le n)

/-- Where there is progress the goal is reached. -/
theorem reaches (σ : Schedule child limit) {good goal : Watch → Prop} {rank : Watch → Nat}
    {helper : Watch → Party} (h : Progress child limit good goal rank helper) {n : Nat}
    (start : good (σ.watch n)) : ∃ m ≥ n, goal (σ.watch m) := by
  induction bound : rank (σ.watch n) using Nat.strongRecOn generalizing n with
  | ind r ih =>
    subst bound
    by_contra never
    have unreached {m : Nat} (le : n ≤ m) : ¬goal (σ.watch m) := fun h => never ⟨m, le, h⟩
    have good_from {m : Nat} (le : n ≤ m) : good (σ.watch m) := σ.holds_from h.keeps start le
    -- a lower rank at a later time would lead to the goal, so the rank and with it the helper
    -- stay as they are, and fairness makes the helper move
    have level {m : Nat} (le : n ≤ m) : ¬rank (σ.watch m) < rank (σ.watch n) := by
      intro lower
      obtain ⟨k, after, reached⟩ := ih _ lower (good_from le) rfl
      exact unreached (Nat.le_trans le after) reached
    have same {m : Nat} (le : n ≤ m) : rank (σ.watch m) = rank (σ.watch n) ∧
        helper (σ.watch m) = helper (σ.watch n) := by
      induction le with
      | refl => exact ⟨rfl, rfl⟩
      | @step m le ih =>
        have le' : n ≤ m + 1 := Nat.le_succ_of_le le
        obtain reached | lower | ⟨rank_eq, helper_eq, _⟩ :=
          h.lowers (good_from le) (unreached le) (σ.step m)
        · exact absurd reached (unreached le')
        · exact absurd (ih.1 ▸ lower) (level le')
        · exact ⟨rank_eq.trans ih.1, helper_eq.trans ih.2⟩
    obtain ⟨m, le, helps⟩ := σ.fair (helper (σ.watch n)) n fun m le =>
      (same le).2 ▸ h.able (good_from le) (unreached le)
    have le' : n ≤ m + 1 := Nat.le_succ_of_le le
    obtain reached | lower | ⟨_, _, other⟩ := h.lowers (good_from le) (unreached le) (σ.step m)
    · exact unreached le' reached
    · exact level le' ((same le).1 ▸ lower)
    · exact other ((same le).2 ▸ helps)

end Schedule

/-! ## Schedules of some moves -/

section Moves

variable {child : Child} {limit : Option Nat} {moves : List Move}

/-- The watches of some moves, after which only time goes on. -/
def afterMoves (child : Child) (limit : Option Nat) (moves : List Move) : Nat → Watch
  | 0 => start child
  | n + 1 =>
    let w := afterMoves child limit moves n
    (w.does child limit (moves.getD n (.passes w.now))).getD w

/-- Nobody can move any more. -/
structure Quiet (limit : Option Nat) (w : Watch) : Prop where
  host : w.goes limit = none
  unawaited : w.stage ≠ .reaps
  closed : ∀ s, (w.readers s).closed = true
  ended : w.ended.isSome

theorem Quiet.not_able {w : Watch} (h : Quiet limit w) (p : Party) : ¬Able child limit w p := by
  rintro ⟨a, w', party, does⟩
  cases step_of_does does with
  | passes => cases party
  | dies stage => exact h.unawaited stage
  | takes opened => exact nomatch opened.symm.trans (h.closed _)
  | closes opened => exact nomatch opened.symm.trans (h.closed _)
  | _ => exact nomatch h.host.symm.trans does

theorem Quiet.passes {w : Watch} (h : Quiet limit w) :
    w.does child limit (.passes w.now) = some w := by
  obtain ⟨ending, ended⟩ := Option.isSome_iff_exists.1 h.ended
  cases w with
  | mk now stage _ readers reaped deeds =>
    cases ended
    exact if_pos (Nat.le_refl _)

theorem afterMoves_of_quiet (quiet : Quiet limit (afterMoves child limit moves moves.length))
    {n : Nat} (le : moves.length ≤ n) :
    afterMoves child limit moves n = afterMoves child limit moves moves.length := by
  induction le with
  | refl => rfl
  | @step n le ih =>
    rw [afterMoves, List.getD_eq_default _ _ le, ih, quiet.passes]
    rfl

/-- Moves after which nobody can move any more are a schedule. -/
def Schedule.ofMoves (moves : List Move)
    (possible : ∀ n < moves.length,
      ((afterMoves child limit moves n).does child limit (moves.getD n .goes)).isSome)
    (quiet : Quiet limit (afterMoves child limit moves moves.length)) : Schedule child limit where
  move n := moves.getD n (.passes (afterMoves child limit moves n).now)
  watch := afterMoves child limit moves
  first := rfl
  next n := by
    rw [afterMoves]
    obtain before | after := Nat.lt_or_ge n moves.length
    · have can := possible n before
      rw [List.getD_eq_getElem _ _ before] at can ⊢
      obtain ⟨w', does⟩ := Option.isSome_iff_exists.1 can
      rw [does]
      rfl
    · rw [List.getD_eq_default _ _ after, afterMoves_of_quiet quiet after, quiet.passes]
      rfl
  fair p n able := by
    have last := able (max n moves.length) (Nat.le_max_left ..)
    rw [afterMoves_of_quiet quiet (Nat.le_max_right ..)] at last
    exact absurd last (quiet.not_able p)

end Moves

/-! ## Until the host knows of the end -/

/-- The host knows of the end of the child. -/
def Knows (w : Watch) : Prop := ∃ known, w.stage.known? = some known

/-- The clock shows the deadline. -/
structure Overdue (child : Child) (deadline : Nat) (w : Watch) : Prop where
  sound : Sound child (some deadline) w
  late : deadline ≤ w.now

/-- How far the host is from the end of a child that is overdue. -/
def Stage.distance : Stage → Nat
  | reckons | sleeps => 5
  | polls => 4
  | looks => 3
  | kills => 2
  | reaps => 1
  | gathers _ | left _ | panicked => 0

/-- How far everybody is from it.  The end of the child is one thing less to come. -/
def distance (w : Watch) : Nat :=
  2 * w.stage.distance + if w.ended = none then 1 else 0

/-- A child that was killed has to die, and all else is up to the host. -/
def awaited (w : Watch) : Party :=
  if w.stage = .reaps ∧ w.ended = none then .child else .host

section Overdue

variable {child : Child} {deadline : Nat} {w w' : Watch} {a : Move}

theorem now_le_of_step {limit : Option Nat} (step : Step child limit w a w') : w.now ≤ w'.now := by
  cases step with
  | passes le => exact le
  | _ => exact Nat.le_refl _

theorem Overdue.of_step (grows : child.Grows) (h : Overdue child deadline w)
    (step : Step child (some deadline) w a w') : Overdue child deadline w' :=
  ⟨h.sound.of_step grows step, Nat.le_trans h.late (now_le_of_step step)⟩

theorem Overdue.able (h : Overdue child deadline w) (unknown : ¬Knows w) :
    Able child (some deadline) w w.awaited := by
  unfold awaited
  cases stage : w.stage with
  | reckons | polls | looks | sleeps | kills =>
    rw [if_neg (by simp)]
    cases ended : w.ended with
    | none => exact able_of_goes (by simp only [goes, stage, ended]; rfl)
    | some => exact able_of_goes (by simp only [goes, stage, ended]; rfl)
  | reaps =>
    cases ended : w.ended with
    | none =>
      rw [if_pos ⟨rfl, rfl⟩]
      exact ⟨.dies, _, rfl, if_pos ⟨stage, ended⟩⟩
    | some =>
      rw [if_neg (by simp)]
      exact able_of_goes (by simp only [goes, stage, ended]; rfl)
  | gathers | left => exact absurd ⟨_, congrArg Stage.known? stage⟩ unknown
  | panicked => exact absurd stage h.sound.not_panicked

theorem distance_lt {here : Stage} (before : w.stage = here)
    (nearer : here.distance = w'.stage.distance + 1) (same : w'.ended = w.ended) :
    distance w' < distance w := by
  unfold distance
  rw [before, nearer, same]
  omega

/-- The end of the child may come while time passes. -/
theorem distance_passes (child : Child) (w : Watch) (later : Nat) :
    let w' : Watch := { w with now := later, ended := w.ended.or (child.endedBy? later) }
    distance w' < distance w ∨ distance w' = distance w ∧ awaited w' = awaited w := by
  cases ended : w.ended with
  | some ending => exact .inr ⟨by simp [distance, ended], by simp [awaited, ended]⟩
  | none =>
    cases found : child.endedBy? later with
    | none => exact .inr ⟨by simp [distance, ended], by simp [awaited, ended]⟩
    | some => exact .inl (by simp [distance, ended])

theorem awaited_ne_reader (w : Watch) (s : Stream) : some (Party.reader s) ≠ some w.awaited := by
  unfold awaited
  split <;> simp

theorem Overdue.lowers (h : Overdue child deadline w)
    (step : Step child (some deadline) w a w') :
    Knows w' ∨ distance w' < distance w ∨
      (distance w' = distance w ∧ awaited w' = awaited w ∧ a.party? ≠ some w.awaited) := by
  cases step with
  | @passes later =>
    obtain lower | ⟨same, helper⟩ := distance_passes child w later
    · exact .inr (.inl lower)
    · exact .inr (.inr ⟨same, helper, nofun⟩)
  | dies stage alive =>
    refine .inr (.inl ?_)
    simp [distance, stage, alive]
  | takes | closes => exact .inr (.inr ⟨rfl, rfl, awaited_ne_reader w _⟩)
  | sees | reaps | leaves => exact .inl ⟨_, rfl⟩
  | panics _ impossible => cases impossible
  | early _ before => exact absurd h.late (Nat.not_le.2 (before deadline rfl))
  | reckons stage | misses stage | late stage | wakes stage | kills stage =>
    exact .inr (.inl (distance_lt stage rfl rfl))

end Overdue

/-! ## Until everything is read -/

/-- What a reader has still to do about a stream. -/
def pending (child : Child) (w : Watch) (s : Stream) : Nat :=
  (w.unread child s).length + if (w.readers s).closed then 0 else 1

/-- What both readers have still to do. -/
def outstanding (child : Child) (w : Watch) : Nat :=
  w.pending child .output + w.pending child .errors

/-- A host that knows of the end waits for its readers, one after the other. -/
def gathering (w : Watch) : Party :=
  if (w.readers .output).closed = false then .reader .output
  else if (w.readers .errors).closed = false then .reader .errors
  else .host

section Gathering

variable {child : Child} {limit : Option Nat} {w w' : Watch} {a : Move}

theorem ended_of_knows (settled : Settled w) (knows : Knows w) : w.ended.isSome := by
  obtain ⟨known, stage⟩ := knows
  obtain ⟨moment, status, ended, _⟩ := settled.knows stage
  rw [ended]
  rfl

/-- Once the host knows of the end it does so for good. -/
theorem Knows.of_step (h : Knows w) (step : Step child limit w a w') : Knows w' := by
  obtain ⟨known, h⟩ := h
  cases step with
  | passes | takes | closes | dies => exact ⟨known, h⟩
  | sees | reaps | leaves => exact ⟨_, rfl⟩
  | reckons stage | panics stage | misses stage | early stage | late stage | wakes stage
  | kills stage =>
    rw [stage] at h
    cases h

/-- A reader of a child that has ended can read on, or finds the end. -/
theorem able_reader (ended : w.ended.isSome) {s : Stream} (opened : (w.readers s).closed = false) :
    Able child limit w (.reader s) := by
  by_cases nothing : w.unread child s = []
  · exact ⟨.closes s, _, rfl, if_pos ⟨opened, ended, nothing⟩⟩
  · have some : 0 < (w.unread child s).length := List.length_pos_of_ne_nil nothing
    exact ⟨.takes s (w.unread child s).length, _, rfl, if_pos ⟨opened, some, Nat.le_refl _⟩⟩

theorem able_gathering (settled : Settled w) (knows : Knows w)
    (waits : ¬∃ r, w.stage = .left r) : Able child limit w w.gathering := by
  have ended := ended_of_knows settled knows
  unfold gathering
  by_cases output : (w.readers .output).closed = false
  · rw [if_pos output]
    exact able_reader ended output
  · rw [if_neg output]
    by_cases errors : (w.readers .errors).closed = false
    · rw [if_pos errors]
      exact able_reader ended errors
    · rw [if_neg errors]
      obtain ⟨known, stage⟩ := knows
      cases at_ : w.stage with
      | gathers status =>
        have closed := And.intro (eq_true_of_ne_false output) (eq_true_of_ne_false errors)
        exact able_of_goes (by rw [goes, at_]; exact if_pos closed)
      | left r => exact absurd ⟨r, at_⟩ waits
      | _ =>
        rw [at_] at stage
        cases stage

theorem pending_withReader_of_ne {s t : Stream} (other : t ≠ s) (r : Reader) :
    pending child (w.withReader s r) t = pending child w t := by
  have same : (w.withReader s r).readers t = w.readers t := Function.update_of_ne other ..
  unfold pending unread
  rw [same]
  rfl

/-- A reader that does something has less to do. -/
theorem pending_withReader_lt {s : Stream} {r : Reader}
    (less : ((w.written child s).drop r.octets.length).length + (if r.closed then 0 else 1) <
      pending child w s) :
    outstanding child (w.withReader s r) < outstanding child w := by
  have same : (w.withReader s r).readers s = r := Function.update_self ..
  have lower : pending child (w.withReader s r) s < pending child w s := by
    unfold pending unread
    rw [same]
    exact less
  unfold outstanding
  cases s with
  | output =>
    rw [pending_withReader_of_ne (by decide : Stream.errors ≠ .output)]
    exact Nat.add_lt_add_right lower _
  | errors =>
    rw [pending_withReader_of_ne (by decide : Stream.output ≠ .errors)]
    exact Nat.add_lt_add_left lower _

theorem lowers_gathering (settled : Settled w) (knows : Knows w)
    (step : Step child limit w a w') :
    (∃ r, w'.stage = .left r) ∨ outstanding child w' < outstanding child w ∨
      (outstanding child w' = outstanding child w ∧ gathering w' = gathering w ∧
        a.party? ≠ some w.gathering) := by
  cases step with
  | @passes later =>
    obtain ⟨ending, ended⟩ := Option.isSome_iff_exists.1 (ended_of_knows settled knows)
    have same (s : Stream) :
        pending child { w with now := later, ended := w.ended.or (child.endedBy? later) } s =
          pending child w s := by
      unfold pending unread written last
      rw [ended]
      rfl
    exact .inr (.inr ⟨congrArg₂ (· + ·) (same .output) (same .errors), rfl, nofun⟩)
  | @takes s count opened positive le =>
    refine .inr (.inl (pending_withReader_lt ?_))
    have taken : (List.take count (w.unread child s)).length = count := List.length_take_of_le le
    have rest : (w.unread child s).length =
        (w.written child s).length - (w.readers s).octets.length := List.length_drop
    rw [pending, opened, List.length_drop, List.length_append, taken]
    dsimp only
    omega
  | @closes s opened ended nothing =>
    refine .inr (.inl (pending_withReader_lt ?_))
    unfold pending
    rw [opened]
    exact Nat.lt_succ_self _
  | leaves => exact .inl ⟨_, rfl⟩
  | dies stage | reckons stage | panics stage | sees stage | misses stage | early stage
  | late stage | wakes stage | kills stage | reaps stage =>
    obtain ⟨known, h⟩ := knows
    rw [stage] at h
    cases h

end Gathering

/-! ## The wait ends -/

section Wait

variable {child : Child} {limit : Option Nat} {deadline : Nat}

/-- The host comes to know of the end of a child that is overdue. -/
theorem progress_of_overdue (grows : child.Grows) :
    Progress child (some deadline) (Overdue child deadline) Knows distance awaited where
  keeps h step := h.of_step grows step
  able := Overdue.able
  lowers h _ step := h.lowers step

/-- A host that knows of the end comes to be through. -/
theorem progress_of_knows (grows : child.Grows) :
    Progress child limit (fun w => Sound child limit w ∧ Knows w) (fun w => ∃ r, w.stage = .left r)
      (outstanding child) gathering where
  keeps h step := ⟨h.1.of_step grows step, h.2.of_step step⟩
  able h := able_gathering h.1.settled h.2
  lowers h _ step := lowers_gathering h.1.settled h.2 step

/-- A wait in which the clock comes to the deadline ends. -/
theorem Schedule.exists_verdict (σ : Schedule child (some deadline)) (grows : child.Grows)
    (comes : ∃ n, deadline ≤ (σ.watch n).now) :
    ∃ n r, (σ.watch n).stage = .left r ∧ Verdict child deadline (σ.watch n) r := by
  obtain ⟨n, late⟩ := comes
  obtain ⟨m, _, knows⟩ := σ.reaches (progress_of_overdue grows) ⟨σ.sound grows n, late⟩
  obtain ⟨k, _, r, left⟩ := σ.reaches (progress_of_knows grows) ⟨σ.sound grows m, knows⟩
  exact ⟨k, r, left, verdict_of_left (σ.sound grows k) left⟩

/-- Looks that come to the deadline decide.  In every schedule in which the clock comes to
the deadline the wait ends, and what the host knows then is what there is to know. -/
theorem ends_with_verdict (grows : child.Grows) (deadline : Nat) :
    (∀ (looks : Nat → Wait.Look) (n : Nat), deadline ≤ (looks n).read →
      ∃ decision, Wait.decideFrom child deadline looks (n + 1) 0 = some decision ∧
        Wait.Decides child deadline looks decision) ∧
    ∀ σ : Schedule child (some deadline), (∃ n, deadline ≤ (σ.watch n).now) →
      ∃ n r, (σ.watch n).stage = .left r ∧ Verdict child deadline (σ.watch n) r := by
  refine ⟨fun looks n late => Wait.exists_decision nofun (by rwa [Nat.zero_add]), fun σ comes => ?_⟩
  exact σ.exists_verdict grows comes

end Wait

namespace Chatty

/-- A child that writes an octet every moment and does not end. -/
def child : Child := ⟨"7", fun moment => ⟨default, List.replicate moment 46, []⟩, none⟩

theorem grows : child.Grows := by
  intro s early late le
  cases s with
  | output =>
    refine ⟨List.replicate (late - early) 46, ?_⟩
    rw [← Nat.add_sub_cancel' le, Nat.add_sub_cancel_left]
    exact List.replicate_append_replicate
  | errors => exact List.prefix_refl _

/-- The host looks at the child before the deadline and after it, and takes its time to
kill it. -/
def moves : List Move :=
  [.goes, .goes, .passes 1, .goes, .takes .output 1, .goes, .goes, .passes 3, .goes, .passes 4,
    .goes, .passes 5, .dies, .goes, .takes .output 4, .closes .output, .closes .errors, .goes]

def schedule : Schedule child (some 2) :=
  .ofMoves moves (by decide) ⟨rfl, by decide, by rintro (_ | _) <;> rfl, rfl⟩

end Chatty

open Chatty in
/-- A child that was killed late has written until then. -/
theorem verdict_of_late_kill :
    child.Grows ∧ 2 ≤ (schedule.watch moves.length).now ∧
    ∃ n r, (schedule.watch n).stage = .left r ∧ Verdict child 2 (schedule.watch n) r := by
  have late : 2 ≤ (schedule.watch moves.length).now := by decide
  exact ⟨grows, late, (ends_with_verdict grows 2).2 schedule ⟨_, late⟩⟩

end EmbeddedPython.Watch
