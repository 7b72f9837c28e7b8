import EmbeddedPython.Proofs.Bootstrap.Attempts
import Mathlib.Logic.Function.Basic

/-!
# Watching a child

A host that waits for a child is not alone with it.  The child goes on and ends when it
likes, two readers take what it writes out of its pipes, and time passes between any two
things that the host does.  A `Watch` is all of them together, a `Watch.Move` is what one
of them does next, and `Watch.does` is what comes of it.

The host reckons the deadline first, which it may fail to do, and then goes round: it
polls the child, looks at the clock, and sleeps.  When it has seen the end of the child
it gathers what the readers got; when it has seen the deadline it kills the child and
reaps it before that.

* `Watch.Step` says once what a move can be.
* `Watch.Living` is about the life of the child, `Watch.Drained` about its pipes,
  `Watch.Course` about what the host has done by the time it is somewhere, and
  `Watch.Settled` about what it knows then.
* `Watch.Sound` is all of these, and every move keeps it.
-/

namespace EmbeddedPython

/-- A stream of a child that is read by its parent. -/
inductive Stream where
  | output
  | errors
deriving Repr, DecidableEq

/-- What a child has written to a stream. -/
def Doings.stream (d : Doings) : Stream → Octets
  | .output => d.output
  | .errors => d.errors

/-- What a child wrote stays written. -/
def Child.Grows (child : Child) : Prop :=
  ∀ (s : Stream) {early late : Nat}, early ≤ late →
    (child.doings early).stream s <+: (child.doings late).stream s

theorem Child.endedBy?_eq_some_iff {child : Child} {moment m : Nat} {status : ExitStatus} :
    child.endedBy? moment = some (m, status) ↔ child.ending = some (m, status) ∧ m ≤ moment := by
  unfold endedBy?
  cases child.ending with
  | none => simp
  | some ending =>
    obtain ⟨last, s⟩ := ending
    simp only [Option.ite_none_right_eq_some, Option.some.injEq, Prod.mk.injEq]
    constructor
    · rintro ⟨le, rfl, rfl⟩
      exact ⟨⟨rfl, rfl⟩, le⟩
    · rintro ⟨⟨rfl, rfl⟩, le⟩
      exact ⟨le, rfl, rfl⟩

/-- How far a stream was read. -/
structure Reader where
  octets : Octets
  /-- The end of the stream was read as well. -/
  closed : Bool
deriving Repr, DecidableEq

namespace Watch

/-- What the host does about a child, and when. -/
inductive Deed where
  /-- The child is asked for its status, which reaps it if it has ended. -/
  | polled (moment : Nat) (seen : Option ExitStatus)
  /-- The clock is read. -/
  | looked (moment : Nat)
  | killed (moment : Nat)
  | reaped (moment : Nat)
deriving Repr, DecidableEq

/-- The moment of a deed. -/
def Deed.moment : Deed → Nat
  | polled moment _ | looked moment | killed moment | reaped moment => moment

/-- What a wait comes to: the status that was seen, or none if the child was killed, and
what was read. -/
structure Result where
  status : Option ExitStatus
  output : Octets
  errors : Octets
deriving Repr, DecidableEq

/-- What a host does next. -/
inductive Stage where
  | reckons
  | polls
  | looks
  | sleeps
  | kills
  | reaps
  | gathers (status : Option ExitStatus)
  /-- The wait is over. -/
  | left (r : Result)
  | panicked
deriving Repr, DecidableEq

/-- What somebody does. -/
inductive Move where
  /-- Time passes until a moment. -/
  | passes (later : Nat)
  /-- The child ends of being killed. -/
  | dies
  /-- The host goes on. -/
  | goes
  /-- A reader gets so many octets. -/
  | takes (s : Stream) (count : Nat)
  /-- A reader finds the end of its stream. -/
  | closes (s : Stream)
deriving Repr, DecidableEq

end Watch

/-- A host that watches a child. -/
structure Watch where
  now : Nat
  stage : Watch.Stage
  /-- The end of the child, once it came. -/
  ended : Option (Nat × ExitStatus)
  readers : Stream → Reader
  /-- The child was waited for. -/
  reaped : Bool
  deeds : List Watch.Deed

namespace Watch

/-- A host that just started a child. -/
def start (child : Child) : Watch :=
  ⟨0, .reckons, child.endedBy? 0, fun _ => ⟨[], false⟩, false, []⟩

/-- The status of a child that was killed. -/
def killedStatus : ExitStatus := .signalled 9 false

/-- The last moment at which the child did anything. -/
def last (w : Watch) : Nat :=
  match w.ended with
  | some (moment, _) => moment
  | none => w.now

section Moves

variable (child : Child) (limit : Option Nat)

/-- What the child has written to a stream. -/
def written (w : Watch) (s : Stream) : Octets := (child.doings w.last).stream s

/-- What is in the pipe of a stream. -/
def unread (w : Watch) (s : Stream) : Octets :=
  (w.written child s).drop (w.readers s).octets.length

/-- The watch after a deed that leads to a stage. -/
def after (w : Watch) (stage : Stage) (deed : Deed) : Watch :=
  { w with stage, deeds := w.deeds ++ [deed] }

/-- The watch with another reader of a stream. -/
def withReader (w : Watch) (s : Stream) (r : Reader) : Watch :=
  { w with readers := Function.update w.readers s r }

/-- What was read of a child, with what is known of its end. -/
def gathered (w : Watch) (status : Option ExitStatus) : Result :=
  ⟨status, (w.readers .output).octets, (w.readers .errors).octets⟩

/-- The next thing that the host does, if it can.  A deadline that the clock cannot show
is none. -/
def goes (w : Watch) : Option Watch :=
  match w.stage with
  | .reckons => some { w with stage := if limit.isSome then .polls else .panicked }
  | .polls =>
    match w.ended with
    | some (_, status) =>
      some { w.after (.gathers (some status)) (.polled w.now (some status)) with reaped := true }
    | none => some (w.after .looks (.polled w.now none))
  | .looks =>
    some (w.after (if limit.any (fun deadline => deadline ≤ w.now) then .kills else .sleeps)
      (.looked w.now))
  | .sleeps => some { w with stage := .polls }
  | .kills => some (w.after .reaps (.killed w.now))
  | .reaps =>
    if w.ended.isSome then some { w.after (.gathers none) (.reaped w.now) with reaped := true }
    else none
  | .gathers status =>
    if (w.readers .output).closed ∧ (w.readers .errors).closed then
      some { w with stage := .left (w.gathered status) }
    else none
  | .left _ | .panicked => none

/-- The watch after a move, if somebody can make it. -/
def does (w : Watch) : Move → Option Watch
  | .passes later =>
    if w.now ≤ later then
      some { w with now := later, ended := w.ended.or (child.endedBy? later) }
    else none
  | .dies =>
    if w.stage = .reaps ∧ w.ended = none then
      some { w with ended := some (w.now, killedStatus) }
    else none
  | .goes => w.goes limit
  | .takes s count =>
    if (w.readers s).closed = false ∧ 0 < count ∧ count ≤ (w.unread child s).length then
      some (w.withReader s ⟨(w.readers s).octets ++ (w.unread child s).take count, false⟩)
    else none
  | .closes s =>
    if (w.readers s).closed = false ∧ w.ended.isSome ∧ w.unread child s = [] then
      some (w.withReader s ⟨(w.readers s).octets, true⟩)
    else none

/-! ## What a move can be -/

/-- The ways in which a move changes a watch. -/
inductive Step (w : Watch) : Move → Watch → Prop
  | passes {later : Nat} (le : w.now ≤ later) :
    Step w (.passes later) { w with now := later, ended := w.ended.or (child.endedBy? later) }
  | dies (stage : w.stage = .reaps) (alive : w.ended = none) :
    Step w .dies { w with ended := some (w.now, killedStatus) }
  | takes {s : Stream} {count : Nat} (opened : (w.readers s).closed = false) (positive : 0 < count)
      (le : count ≤ (w.unread child s).length) :
    Step w (.takes s count)
      (w.withReader s ⟨(w.readers s).octets ++ (w.unread child s).take count, false⟩)
  | closes {s : Stream} (opened : (w.readers s).closed = false) (ended : w.ended.isSome)
      (nothing : w.unread child s = []) :
    Step w (.closes s) (w.withReader s ⟨(w.readers s).octets, true⟩)
  | reckons (stage : w.stage = .reckons) (possible : limit.isSome) :
    Step w .goes { w with stage := .polls }
  | panics (stage : w.stage = .reckons) (impossible : limit = none) :
    Step w .goes { w with stage := .panicked }
  | sees {moment : Nat} {status : ExitStatus} (stage : w.stage = .polls)
      (ended : w.ended = some (moment, status)) :
    Step w .goes
      { w.after (.gathers (some status)) (.polled w.now (some status)) with reaped := true }
  | misses (stage : w.stage = .polls) (alive : w.ended = none) :
    Step w .goes (w.after .looks (.polled w.now none))
  | early (stage : w.stage = .looks) (before : ∀ deadline ∈ limit, w.now < deadline) :
    Step w .goes (w.after .sleeps (.looked w.now))
  | late {deadline : Nat} (stage : w.stage = .looks) (given : limit = some deadline)
      (le : deadline ≤ w.now) :
    Step w .goes (w.after .kills (.looked w.now))
  | wakes (stage : w.stage = .sleeps) : Step w .goes { w with stage := .polls }
  | kills (stage : w.stage = .kills) : Step w .goes (w.after .reaps (.killed w.now))
  | reaps (stage : w.stage = .reaps) (ended : w.ended.isSome) :
    Step w .goes { w.after (.gathers none) (.reaped w.now) with reaped := true }
  | leaves {status : Option ExitStatus} (stage : w.stage = .gathers status)
      (closed : ∀ s, (w.readers s).closed = true) :
    Step w .goes { w with stage := .left (w.gathered status) }

variable {child : Child} {limit : Option Nat} {w w' : Watch}

theorem step_of_goes (h : w.goes limit = some w') : Step child limit w .goes w' := by
  unfold goes at h
  split at h
  · next stage =>
    obtain rfl := Option.some.inj h
    cases limit with
    | none => exact .panics stage rfl
    | some deadline => exact .reckons stage rfl
  · next stage =>
    split at h
    · next moment status ended =>
      obtain rfl := Option.some.inj h
      exact .sees stage ended
    · next alive =>
      obtain rfl := Option.some.inj h
      exact .misses stage alive
  · next stage =>
    obtain rfl := Option.some.inj h
    cases limit with
    | none => exact .early stage nofun
    | some deadline =>
      by_cases le : deadline ≤ w.now
      · have late : Step child (some deadline) w .goes _ := .late stage rfl le
        simpa [le] using late
      · have before : ∀ d ∈ some deadline, w.now < d := by simpa using le
        have early : Step child (some deadline) w .goes _ := .early stage before
        simpa [le] using early
  · next stage =>
    obtain rfl := Option.some.inj h
    exact .wakes stage
  · next stage =>
    obtain rfl := Option.some.inj h
    exact .kills stage
  · next stage =>
    split at h
    · next ended =>
      obtain rfl := Option.some.inj h
      exact .reaps stage ended
    · cases h
  · next status stage =>
    split at h
    · next closed =>
      obtain rfl := Option.some.inj h
      refine .leaves stage fun s => ?_
      cases s with
      | output => exact closed.1
      | errors => exact closed.2
    · cases h
  · cases h
  · cases h

theorem step_of_does {a : Move} (h : w.does child limit a = some w') : Step child limit w a w' := by
  cases a with
  | goes => exact step_of_goes h
  | passes later =>
    obtain ⟨le, rfl⟩ := Option.ite_none_right_eq_some.1 h |>.imp_right Option.some.inj
    exact .passes le
  | dies =>
    obtain ⟨⟨stage, alive⟩, rfl⟩ := Option.ite_none_right_eq_some.1 h |>.imp_right Option.some.inj
    exact .dies stage alive
  | takes s count =>
    obtain ⟨⟨opened, positive, le⟩, rfl⟩ :=
      Option.ite_none_right_eq_some.1 h |>.imp_right Option.some.inj
    exact .takes opened positive le
  | closes s =>
    obtain ⟨⟨opened, ended, nothing⟩, rfl⟩ :=
      Option.ite_none_right_eq_some.1 h |>.imp_right Option.some.inj
    exact .closes opened ended nothing

end Moves

/-! ## The life of the child -/

/-- What is known of an end: the child came to it by itself, or it was killed before. -/
def EndedAt (child : Child) (w : Watch) (moment : Nat) (status : ExitStatus) : Prop :=
  child.endedBy? moment = some (moment, status) ∨
    (status = killedStatus ∧ child.endedBy? moment = none ∧ ∃ k ≤ moment, .killed k ∈ w.deeds)

/-- The child runs on until it ends or is killed, and nothing was done later than now. -/
structure Living (child : Child) (w : Watch) : Prop where
  past : ∀ deed ∈ w.deeds, deed.moment ≤ w.now
  alive : w.ended = none → child.endedBy? w.now = none
  ended : ∀ {moment status}, w.ended = some (moment, status) →
    moment ≤ w.now ∧ EndedAt child w moment status

/-- The deeds of rounds in which the child ran on. -/
def deedsOf (rounds : List Wait.Look) : List Deed :=
  rounds.flatMap fun look => [.polled look.polled none, .looked look.read]

/-- A round that neither found the end of the child nor came to the deadline. -/
structure Idle (child : Child) (limit : Option Nat) (look : Wait.Look) : Prop where
  running : child.endedBy? look.polled = none
  early : ∀ deadline ∈ limit, look.read < deadline

/-- A round that did not find the end of the child, and came to the deadline. -/
structure Late (child : Child) (limit : Option Nat) (look : Wait.Look) : Prop where
  running : child.endedBy? look.polled = none
  late : ∃ deadline ∈ limit, deadline ≤ look.read

/-- What a host has done when it is at a stage. -/
inductive Course (child : Child) (limit : Option Nat) : Stage → List Deed → Prop
  | reckons {deeds : List Deed} (done : deeds = []) : Course child limit .reckons deeds
  | panicked {deeds : List Deed} (done : deeds = []) (impossible : limit = none) :
    Course child limit .panicked deeds
  | polls {deeds : List Deed} {rounds : List Wait.Look} (done : deeds = deedsOf rounds)
      (idle : ∀ look ∈ rounds, Idle child limit look) : Course child limit .polls deeds
  | looks {deeds : List Deed} {rounds : List Wait.Look} {moment : Nat}
      (done : deeds = deedsOf rounds ++ [.polled moment none])
      (idle : ∀ look ∈ rounds, Idle child limit look) (running : child.endedBy? moment = none) :
    Course child limit .looks deeds
  | sleeps {deeds : List Deed} {rounds : List Wait.Look} (done : deeds = deedsOf rounds)
      (idle : ∀ look ∈ rounds, Idle child limit look) : Course child limit .sleeps deeds
  | kills {deeds : List Deed} {rounds : List Wait.Look} {final : Wait.Look}
      (done : deeds = deedsOf (rounds ++ [final]))
      (idle : ∀ look ∈ rounds, Idle child limit look) (late : Late child limit final) :
    Course child limit .kills deeds
  | reaps {deeds : List Deed} {rounds : List Wait.Look} {final : Wait.Look} {moment : Nat}
      (done : deeds = deedsOf (rounds ++ [final]) ++ [.killed moment])
      (idle : ∀ look ∈ rounds, Idle child limit look) (late : Late child limit final) :
    Course child limit .reaps deeds
  | exited {deeds : List Deed} {rounds : List Wait.Look} {moment last : Nat} {status : ExitStatus}
      (done : deeds = deedsOf rounds ++ [.polled moment (some status)])
      (idle : ∀ look ∈ rounds, Idle child limit look)
      (seen : child.endedBy? moment = some (last, status)) :
    Course child limit (.gathers (some status)) deeds
  | timedOut {deeds : List Deed} {rounds : List Wait.Look} {final : Wait.Look} {moment last : Nat}
      (done : deeds = deedsOf (rounds ++ [final]) ++ [.killed moment, .reaped last])
      (idle : ∀ look ∈ rounds, Idle child limit look) (late : Late child limit final) :
    Course child limit (.gathers none) deeds
  | left {deeds : List Deed} {r : Result} (course : Course child limit (.gathers r.status) deeds) :
    Course child limit (.left r) deeds

theorem deedsOf_append (rounds more : List Wait.Look) :
    deedsOf (rounds ++ more) = deedsOf rounds ++ deedsOf more :=
  List.flatMap_append

theorem killed_not_mem_deedsOf {moment : Nat} {rounds : List Wait.Look} :
    .killed moment ∉ deedsOf rounds := by
  simp [deedsOf]

section Safety

variable {child : Child} {limit : Option Nat} {w w' : Watch} {a : Move}

theorem EndedAt.of_subset {moment : Nat} {status : ExitStatus} (subset : w.deeds ⊆ w'.deeds)
    (h : EndedAt child w moment status) : EndedAt child w' moment status := by
  refine h.imp_right ?_
  rintro ⟨same, alive, k, le, killed⟩
  exact ⟨same, alive, k, le, subset killed⟩

/-- A host that polls knows of no end but the one that the child came to by itself. -/
theorem endedBy?_of_polls (living : Living child w) (course : Course child limit w.stage w.deeds)
    (stage : w.stage = .polls) {moment : Nat} {status : ExitStatus}
    (ended : w.ended = some (moment, status)) :
    child.endedBy? w.now = some (moment, status) := by
  obtain ⟨le, own | ⟨_, _, k, _, killed⟩⟩ := living.ended ended
  · exact Child.endedBy?_of_le le own
  · rw [stage] at course
    cases course with
    | polls done => exact absurd (done ▸ killed) killed_not_mem_deedsOf

theorem living_start (child : Child) : Living child (start child) where
  past := nofun
  alive h := h
  ended {moment status} h := by
    obtain ⟨ending, le⟩ := Child.endedBy?_eq_some_iff.1 h
    exact ⟨le, .inl (Child.endedBy?_eq_some_iff.2 ⟨ending, Nat.le_refl _⟩)⟩

/-- A deed of the host changes nothing about the child. -/
theorem Living.after (h : Living child w) (stage : Stage) (deed : Deed)
    (now : deed.moment = w.now) : Living child (w.after stage deed) where
  past := List.forall_mem_append.2 ⟨h.past, List.forall_mem_singleton.2 (Nat.le_of_eq now)⟩
  alive := h.alive
  ended e := (h.ended e).imp_right (EndedAt.of_subset (List.subset_append_left ..))

/-- A child that is not known to have ended ends by itself at some moment between. -/
theorem Living.passes (h : Living child w) {later : Nat} (le : w.now ≤ later) :
    Living child { w with now := later, ended := w.ended.or (child.endedBy? later) } where
  past deed mem := Nat.le_trans (h.past deed mem) le
  alive none := (Option.or_eq_none_iff.1 none).2
  ended {moment status} e := by
    obtain known | ⟨_, found⟩ := Option.or_eq_some_iff.1 e
    · obtain ⟨before, fate⟩ := h.ended known
      exact ⟨Nat.le_trans before le, fate⟩
    · obtain ⟨ending, inTime⟩ := Child.endedBy?_eq_some_iff.1 found
      exact ⟨inTime, .inl (Child.endedBy?_eq_some_iff.2 ⟨ending, Nat.le_refl _⟩)⟩

theorem Living.dies (h : Living child w) (course : Course child limit w.stage w.deeds)
    (stage : w.stage = .reaps) (alive : w.ended = none) :
    Living child { w with ended := some (w.now, killedStatus) } where
  past := h.past
  alive := nofun
  ended {moment status} e := by
    obtain ⟨rfl, rfl⟩ := Prod.mk.inj (Option.some.inj e)
    refine ⟨Nat.le_refl _, .inr ⟨rfl, h.alive alive, ?_⟩⟩
    rw [stage] at course
    cases course with
    | @reaps _ rounds final k done =>
      have killed : .killed k ∈ w.deeds := by
        rw [done]
        exact List.mem_append_right _ (List.mem_singleton_self _)
      exact ⟨k, h.past _ killed, killed⟩

theorem Living.of_step (h : Living child w) (course : Course child limit w.stage w.deeds)
    (step : Step child limit w a w') : Living child w' := by
  cases step with
  | passes le => exact h.passes le
  | dies stage alive => exact h.dies course stage alive
  | takes | closes | reckons | panics | wakes | leaves => exact ⟨h.past, h.alive, h.ended⟩
  | misses | early | late | kills => exact h.after _ _ rfl
  | @sees moment status =>
    have done := h.after (.gathers (some status)) (.polled w.now (some status)) rfl
    exact ⟨done.past, done.alive, done.ended⟩
  | reaps =>
    have done := h.after (.gathers none) (.reaped w.now) rfl
    exact ⟨done.past, done.alive, done.ended⟩

/-- One more round. -/
theorem deedsOf_round {deeds : List Deed} {rounds : List Wait.Look} {polled : Nat}
    (done : deeds = deedsOf rounds ++ [.polled polled none]) (read : Nat) :
    deeds ++ [.looked read] = deedsOf (rounds ++ [⟨polled, read⟩]) := by
  rw [done, List.append_assoc, deedsOf_append]
  rfl

theorem Course.of_step (living : Living child w) (h : Course child limit w.stage w.deeds)
    (step : Step child limit w a w') : Course child limit w'.stage w'.deeds := by
  -- only the host adds deeds, and each of its stages has one form of the course before it
  cases step with
  | passes | dies | takes | closes => exact h
  | reckons stage =>
    rw [stage] at h
    cases h with
    | reckons done =>
      have none_yet : w.deeds = deedsOf [] := done
      exact .polls none_yet nofun
  | panics stage impossible =>
    rw [stage] at h
    cases h with
    | reckons done => exact .panicked done impossible
  | sees stage ended =>
    have seen := endedBy?_of_polls living h stage ended
    rw [stage] at h
    cases h with
    | polls done idle => exact .exited (done ▸ rfl) idle seen
  | misses stage alive =>
    rw [stage] at h
    cases h with
    | polls done idle => exact .looks (done ▸ rfl) idle (living.alive alive)
  | early stage before =>
    rw [stage] at h
    cases h with
    | looks done idle running =>
      have again : Idle child limit ⟨_, w.now⟩ := ⟨running, before⟩
      exact .sleeps (deedsOf_round done w.now)
        (List.forall_mem_append.2 ⟨idle, List.forall_mem_singleton.2 again⟩)
  | late stage given le =>
    rw [stage] at h
    cases h with
    | looks done idle running =>
      exact .kills (deedsOf_round done w.now) idle ⟨running, _, given, le⟩
  | wakes stage =>
    rw [stage] at h
    cases h with
    | sleeps done idle => exact .polls done idle
  | kills stage =>
    rw [stage] at h
    cases h with
    | kills done idle late => exact .reaps (congrArg (· ++ [Deed.killed w.now]) done) idle late
  | reaps stage ended =>
    rw [stage] at h
    cases h with
    | @reaps _ rounds final k done idle late =>
      have done' : w.deeds ++ [.reaped w.now] =
          deedsOf (rounds ++ [final]) ++ [.killed k, .reaped w.now] := by
        rw [done, List.append_assoc]
        rfl
      exact .timedOut done' idle late
  | leaves stage closed =>
    rw [stage] at h
    exact .left h

end Safety

/-! ## The pipes -/

/-- A reader has read a part from the front, and all of it once it is closed. -/
structure Drained (child : Child) (w : Watch) : Prop where
  front : ∀ s, (w.readers s).octets <+: w.written child s
  whole : ∀ s, (w.readers s).closed = true →
    w.ended.isSome ∧ (w.readers s).octets = w.written child s

section Pipes

variable {child : Child} {limit : Option Nat} {w w' : Watch} {a : Move}

theorem last_of_ended {moment : Nat} {status : ExitStatus} (ended : w.ended = some (moment, status)) :
    w.last = moment := by
  rw [last, ended]

/-- What was read and what is in the pipe is what was written. -/
theorem octets_append_unread (h : Drained child w) (s : Stream) :
    (w.readers s).octets ++ w.unread child s = w.written child s :=
  List.prefix_iff_eq_append.1 (h.front s)

theorem drained_start (child : Child) : Drained child (start child) where
  front _ := List.nil_prefix
  whole := nofun

/-- Nothing written is lost when time passes, and nothing is added once the child ended. -/
theorem Drained.passes (grows : child.Grows) (living : Living child w) (h : Drained child w)
    {later : Nat} (le : w.now ≤ later) :
    Drained child { w with now := later, ended := w.ended.or (child.endedBy? later) } := by
  cases known : w.ended with
  | some ending =>
    have same (s : Stream) : Watch.written child { w with now := later, ended := some ending } s =
        w.written child s := by
      unfold written last
      rw [known]
    refine ⟨fun s => ?_, fun s closed => ?_⟩
    · rw [Option.some_or, same]
      exact h.front s
    · rw [Option.some_or, same]
      exact ⟨rfl, (h.whole s closed).2⟩
  | none =>
    have alive := living.alive known
    rw [Option.none_or]
    refine ⟨fun s => (h.front s).trans (grows s ?_), fun s closed => ?_⟩
    · -- the child did not end until now, so its end is no earlier
      dsimp only [last]
      rw [known]
      cases found : child.endedBy? later with
      | none => exact le
      | some ended =>
        obtain ⟨moment, status⟩ := ended
        obtain ⟨ending, _⟩ := Child.endedBy?_eq_some_iff.1 found
        by_contra before
        have now := Child.endedBy?_eq_some_iff.2 ⟨ending, Nat.le_of_not_le before⟩
        exact nomatch alive.symm.trans now
    · have ended := (h.whole s closed).1
      rw [known] at ended
      cases ended

/-- Another reader for a stream, that has read more of it. -/
theorem Drained.withReader (h : Drained child w) {s : Stream} {r : Reader}
    (front : r.octets <+: w.written child s)
    (whole : r.closed = true → w.ended.isSome ∧ r.octets = w.written child s) :
    Drained child (w.withReader s r) := by
  constructor
  · intro t
    dsimp only [Watch.withReader]
    obtain rfl | other := eq_or_ne t s
    · rw [Function.update_self]
      exact front
    · rw [Function.update_of_ne other]
      exact h.front t
  · intro t closed
    dsimp only [Watch.withReader] at closed ⊢
    obtain rfl | other := eq_or_ne t s
    · rw [Function.update_self] at closed ⊢
      exact whole closed
    · rw [Function.update_of_ne other] at closed ⊢
      exact h.whole t closed

theorem Drained.of_step (grows : child.Grows) (living : Living child w) (h : Drained child w)
    (step : Step child limit w a w') : Drained child w' := by
  cases step with
  | passes le => exact h.passes grows living le
  | dies stage alive =>
    have same (s : Stream) : Watch.written child { w with ended := some (w.now, killedStatus) } s =
        w.written child s := by
      unfold written last
      rw [alive]
    refine ⟨fun s => same s ▸ h.front s, fun s closed => ⟨rfl, ?_⟩⟩
    exact (h.whole s closed).2.trans (same s).symm
  | @takes s count =>
    refine h.withReader ?_ nofun
    rw [← octets_append_unread h s]
    exact (List.prefix_append_right_inj _).2 (List.take_prefix ..)
  | @closes s opened ended nothing =>
    have all := octets_append_unread h s
    rw [nothing, List.append_nil] at all
    exact h.withReader (h.front s) fun _ => ⟨ended, all⟩
  | reckons | panics | sees | misses | early | late | wakes | kills | reaps | leaves =>
    exact ⟨h.front, h.whole⟩

end Pipes

/-! ## The end of the wait -/

/-- What a host knows of the status once the child was waited for. -/
def Stage.known? : Stage → Option (Option ExitStatus)
  | gathers status => some status
  | left r => some r.status
  | _ => none

/-- The child was waited for exactly if the host knows of its end, and then what it knows
is true; a host that is through has everything that was read. -/
structure Settled (w : Watch) : Prop where
  reaped : w.reaped = w.stage.known?.isSome
  knows : ∀ {known : Option ExitStatus}, w.stage.known? = some known →
    ∃ moment status, w.ended = some (moment, status) ∧ ∀ seen ∈ known, seen = status
  through : ∀ {r : Result}, w.stage = .left r →
    r = w.gathered r.status ∧ ∀ s, (w.readers s).closed = true

section End

variable {child : Child} {limit : Option Nat} {w w' : Watch} {a : Move}

theorem settled_start (child : Child) : Settled (start child) where
  reaped := rfl
  knows := nofun
  through := nofun

/-- A stage at which the host knows nothing of the end. -/
theorem settled_of_unknown (unknown : w.stage.known? = none) (reaped : w.reaped = false) :
    Settled w where
  reaped := by rw [reaped, unknown]; rfl
  knows h := nomatch unknown.symm.trans h
  through {r} h := by
    rw [h] at unknown
    cases unknown

theorem Settled.of_step (h : Settled w) (step : Step child limit w a w') : Settled w' := by
  have unreaped {stage : Stage} (same : w.stage = stage) (unknown : stage.known? = none) :
      w.reaped = false := by
    rw [h.reaped, same, unknown]
    rfl
  cases step with
  | passes =>
    refine ⟨h.reaped, fun known => ?_, h.through⟩
    obtain ⟨moment, status, ended, rest⟩ := h.knows known
    exact ⟨moment, status, by rw [ended]; rfl, rest⟩
  | dies stage => exact settled_of_unknown (by rw [stage]; rfl) (unreaped stage rfl)
  | takes opened =>
    refine ⟨h.reaped, h.knows, fun left => ?_⟩
    exact nomatch opened.symm.trans ((h.through left).2 _)
  | closes opened =>
    refine ⟨h.reaped, h.knows, fun left => ?_⟩
    exact nomatch opened.symm.trans ((h.through left).2 _)
  | reckons stage | panics stage | misses stage | early stage | late stage | wakes stage
  | kills stage => exact settled_of_unknown rfl (unreaped stage rfl)
  | @sees moment status stage ended =>
    refine ⟨rfl, ?_, nofun⟩
    rintro _ ⟨⟩
    refine ⟨moment, status, ended, ?_⟩
    rintro _ ⟨⟩
    rfl
  | reaps stage ended =>
    obtain ⟨⟨moment, status⟩, ended⟩ := Option.isSome_iff_exists.1 ended
    refine ⟨rfl, ?_, nofun⟩
    rintro _ ⟨⟩
    exact ⟨moment, status, ended, nofun⟩
  | @leaves known stage closed =>
    have reaped := h.reaped
    rw [stage] at reaped
    refine ⟨reaped, ?_, ?_⟩
    · rintro _ ⟨⟩
      exact h.knows (congrArg Stage.known? stage)
    · rintro _ ⟨⟩
      exact ⟨rfl, closed⟩

end End

/-! ## What holds all along -/

/-- What every move keeps. -/
structure Sound (child : Child) (limit : Option Nat) (w : Watch) : Prop where
  living : Living child w
  course : Course child limit w.stage w.deeds
  drained : Drained child w
  settled : Settled w

theorem sound_start (child : Child) (limit : Option Nat) : Sound child limit (start child) :=
  ⟨living_start child, .reckons rfl, drained_start child, settled_start child⟩

theorem Sound.of_step {child : Child} {limit : Option Nat} {w w' : Watch} {a : Move}
    (grows : child.Grows) (h : Sound child limit w) (step : Step child limit w a w') :
    Sound child limit w' where
  living := h.living.of_step h.course step
  course := h.course.of_step h.living step
  drained := h.drained.of_step grows h.living step
  settled := h.settled.of_step step

/-- A host that has a deadline does not panic over it. -/
theorem Sound.not_panicked {child : Child} {deadline : Nat} {w : Watch}
    (h : Sound child (some deadline) w) : w.stage ≠ .panicked := by
  intro panicked
  have course := h.course
  rw [panicked] at course
  cases course with
  | panicked _ impossible => cases impossible

end Watch

end EmbeddedPython
