import EmbeddedPython.Proofs.Lifetime.Protocol
import EmbeddedPython.Proofs.Threads.Interleaving
import Mathlib.Data.List.Perm.Basic

/-!
# The stages of all threads together

`Stage.Passes` is a step of a thread seen from the protocol alone: what happens
to the lock, to the state of initialization and to libraries.  `Together` is the
invariant of all stages and the world:

* what each thread knows at its stage is true;
* every library that was opened is given back, has an open host or is in the
  hands of one thread, and it is so at one of these places only (`Ledger`);
* the interpreter is initialized exactly when one attempt was a success, or is
  about to be one.

`Together.pass` says that it is kept by every step, as long as two threads are
never in attempts at the same time.
-/

namespace EmbeddedPython

variable {ι : Type} [DecidableEq ι]

/-! ## Libraries -/

/-- Where libraries are: which ones nobody has in hand, and which one is in the
hand of a thread. -/
structure Ledger (opened : Nat) (settled : List Nat) (hand : ι → Option Nat) : Prop where
  nodup : settled.Nodup
  one_hand : ∀ i j k, hand i = some k → hand j = some k → i = j
  in_hand : ∀ i k, hand i = some k → k ∉ settled
  all : ∀ k, k < opened ↔ k ∈ settled ∨ ∃ i, hand i = some k

namespace Ledger

variable {opened k : Nat} {settled settled' : List Nat} {hand : ι → Option Nat} {i : ι}

/-- A library that was just opened is in hand. -/
theorem opens (h : Ledger opened settled hand) (empty : hand i = none) :
    Ledger (opened + 1) settled (Function.update hand i (some opened)) where
  nodup := h.nodup
  one_hand j l k hj hl := by
    have fresh : ∀ j, hand j ≠ some opened := fun j hj =>
      Nat.lt_irrefl _ ((h.all opened).mpr (.inr ⟨j, hj⟩))
    simp only [Function.update_apply] at hj hl
    split at hj <;> split at hl <;> grind [h.one_hand]
  in_hand j k hj := by
    have fresh : opened ∉ settled := fun mem => Nat.lt_irrefl _ ((h.all opened).mpr (.inl mem))
    simp only [Function.update_apply] at hj
    split at hj <;> grind [h.in_hand]
  all k := by
    rw [Nat.lt_succ_iff_lt_or_eq, h.all k, or_assoc]
    refine or_congr_right ⟨?_, ?_⟩
    · rintro (⟨j, hj⟩ | rfl)
      · refine ⟨j, ?_⟩
        rwa [Function.update_of_ne (by rintro rfl; simp [empty] at hj)]
      · exact ⟨i, Function.update_self ..⟩
    · rintro ⟨j, hj⟩
      simp only [Function.update_apply] at hj
      grind

/-- A library in hand is given away. -/
theorem gives (h : Ledger opened settled hand) (had : hand i = some k)
    (perm : settled'.Perm (k :: settled)) :
    Ledger opened settled' (Function.update hand i none) where
  nodup := perm.nodup_iff.mpr (List.nodup_cons.mpr ⟨h.in_hand i k had, h.nodup⟩)
  one_hand j l k' hj hl := by
    simp only [Function.update_apply] at hj hl
    grind [h.one_hand]
  in_hand j k' hj mem := by
    simp only [Function.update_apply] at hj
    rcases List.mem_cons.mp (perm.mem_iff.mp mem) with rfl | mem
    · grind [h.one_hand]
    · grind [h.in_hand]
  all k' := by
    rw [h.all k', perm.mem_iff, List.mem_cons]
    constructor
    · rintro (mem | ⟨j, hj⟩)
      · exact .inl (.inr mem)
      · by_cases hji : j = i
        · subst hji
          exact .inl (.inl (Option.some.inj (hj.symm.trans had)))
        · exact .inr ⟨j, by rwa [Function.update_of_ne hji]⟩
    · rintro ((rfl | mem) | ⟨j, hj⟩)
      · exact .inr ⟨i, had⟩
      · exact .inl mem
      · simp only [Function.update_apply] at hj
        grind

/-- A library that nobody had in hand is taken. -/
theorem takes (h : Ledger opened settled hand) (empty : hand i = none)
    (perm : settled.Perm (k :: settled')) :
    Ledger opened settled' (Function.update hand i (some k)) where
  nodup := (List.nodup_cons.mp (perm.nodup_iff.mp h.nodup)).2
  one_hand j l k' hj hl := by
    have mem : k ∈ settled := perm.mem_iff.mpr List.mem_cons_self
    simp only [Function.update_apply] at hj hl
    grind [h.one_hand, h.in_hand]
  in_hand j k' hj mem := by
    have fresh : k ∉ settled' := (List.nodup_cons.mp (perm.nodup_iff.mp h.nodup)).1
    have old : k' ∈ settled := perm.mem_iff.mpr (List.mem_cons_of_mem _ mem)
    simp only [Function.update_apply] at hj
    grind [h.in_hand]
  all k' := by
    rw [h.all k', perm.mem_iff, List.mem_cons]
    constructor
    · rintro ((rfl | mem) | ⟨j, hj⟩)
      · exact .inr ⟨i, Function.update_self ..⟩
      · exact .inl mem
      · refine .inr ⟨j, ?_⟩
        rwa [Function.update_of_ne (by rintro rfl; simp [empty] at hj)]
    · rintro (mem | ⟨j, hj⟩)
      · exact .inl (.inr mem)
      · simp only [Function.update_apply] at hj
        grind

omit [DecidableEq ι] in
/-- When nobody has a library in hand, every one that was opened is at one
place. -/
theorem perm_range (h : Ledger opened settled hand) (empty : ∀ i, hand i = none) :
    settled.Perm (List.range opened) := by
  refine (List.perm_ext_iff_of_nodup h.nodup List.nodup_range).mpr fun k => ?_
  rw [List.mem_range, h.all k]
  simp [empty]

end Ledger

namespace World

/-- The libraries of hosts that are open. -/
def housed (w : World) : List Nat := w.hosts.filterMap fun h => h.library.map Library.number

/-- The libraries that nobody has in hand. -/
def settled (w : World) : List Nat := w.libraries.released ++ w.housed

/-- A world is initialized after it was recorded what initialized it. -/
theorem initialized_record (w : World) (i : Initialization) :
    ({ w with embedding := w.embedding.record i } : World).initialized.isSome := by
  simp [World.initialized, Embedding.record]

/-- A library that is given back is settled. -/
theorem settled_releaseLibrary (w : World) (library : Library) :
    ({ w with embedding := w.embedding.releaseLibrary library } : World).settled.Perm
      (library.number :: w.settled) := by
  show (w.libraries.released ++ [library.number] ++ w.housed).Perm _
  rw [List.append_assoc]
  exact List.perm_middle

/-- The library of a host that is given away is settled. -/
theorem settled_addHost (w : World) {h : Host} {library : Library}
    (has : h.library = some library) :
    (w.addHost h).settled.Perm (library.number :: w.settled) := by
  have housed : (w.addHost h).housed = w.housed ++ [library.number] := by
    simp [World.housed, addHost, has]
  show (w.libraries.released ++ (w.addHost h).housed).Perm _
  rw [housed, ← List.append_assoc]
  exact List.perm_append_singleton _ _

/-- The library of a host that is taken is not settled any more. -/
theorem settled_removeHost (w : World) {index : Nat} {h : Host} {library : Library}
    (host : w.hosts[index]? = some h) (has : h.library = some library) :
    w.settled.Perm (library.number :: (w.removeHost index).settled) := by
  obtain ⟨inside, rfl⟩ := List.getElem?_eq_some_iff.mp host
  have hosts : w.hosts.Perm (w.hosts[index] :: w.hosts.eraseIdx index) :=
    (List.getElem_cons_eraseIdx_perm inside).symm
  have housed : w.housed.Perm (library.number :: (w.removeHost index).housed) := by
    have mapped := hosts.filterMap fun h => h.library.map Library.number
    rwa [List.filterMap_cons_some (by rw [has]; rfl)] at mapped
  exact (housed.append_left w.libraries.released).trans List.perm_middle

end World

/-! ## Steps between stages -/

namespace Stage

/-- In no attempt. -/
def Between : Stage → Prop
  | free _ | holding _ => True
  | checking | refused | unset | opened _ | recorded _ => False

/-- A step of a thread, as far as it matters for initialization. -/
inductive Passes : Stage → Event → World → World → Stage → Prop
  | silent {g g' : Stage} {w w' : World} (does : g.Does w w' g') : Passes g .silent w w' g'
  | refused {ready : Bool} {purpose : Purpose} {w : World} :
      Passes (free ready) (.refused purpose) w w (free false)
  | asks {ready : Bool} {purpose : Purpose} {w : World} :
      Passes (free ready) (.asks purpose) w w (free ready)
  | takes {ready : Bool} {purpose : Purpose} {w : World} :
      Passes (free ready) (.takes purpose) w w (free ready)
  /-- The start of an attempt. -/
  | attempts {ready : Bool} {w : World} :
      Passes (free ready) (.enters .initialization) w w checking
  | uses {w : World} : Passes (free true) (.enters .use) w w (free false)
  /-- The end of an attempt that was a success. -/
  | succeeds {number : Nat} {w : World} :
      Passes (recorded number) (.leaves .initialization none) w w (holding number)
  /-- The end of an attempt that opened no library, or gave it back. -/
  | fails {f : Failure} {w : World} (plain : f.IsPlain) :
      Passes unset (.leaves .initialization (some f)) w w (free false)
  /-- The end of an attempt that found an interpreter. -/
  | findsAnother {w : World} :
      Passes refused (.leaves .initialization (some (.error .alreadyInitialized))) w w
        (free false)
  | used {ready : Bool} {failure : Option Failure} {w : World} :
      Passes (free ready) (.leaves .use failure) w w (free false)
  | releases {g : Stage} {purpose : Purpose} {w : World} (between : g.Between) :
      Passes g (.releases purpose) w w g

variable {g g' : Stage} {w w' : World} {e : Event}

/-- What a thread knows depends on nothing but what initialized the
interpreter. -/
theorem Fits.congr (h : g.Fits w) (same : w'.initialized = w.initialized) : g.Fits w' := by
  cases g <;> simp_all [Fits]

/-- What a thread in no attempt knows stays true when the interpreter is
initialized. -/
theorem Fits.set (h : g.Fits w) (between : g.Between) (set : w'.initialized.isSome) :
    g.Fits w' := by
  cases g with
  | free ready => exact fun _ => set
  | holding number => trivial
  | _ => exact between.elim

/-- A step within or outside of attempts stays there. -/
theorem Does.between_iff (h : g.Does w w' g') : g.Between ↔ g'.Between := by
  cases h <;> rfl

/-- The interpreter is initialized at one step of an attempt, and never by
anything else. -/
theorem Does.initialized (h : g.Does w w' g') :
    (w'.initialized = w.initialized ∧ ∀ number, g' = recorded number ↔ g = recorded number) ∨
      ∃ number, g = opened number ∧ g' = recorded number ∧ w.initialized = none ∧
        w'.initialized.isSome := by
  cases h with
  | records unset => exact .inr ⟨_, rfl, rfl, unset, World.initialized_record ..⟩
  | works _ same => exact .inl ⟨same, fun _ => Iff.rfl⟩
  | idle => exact .inl ⟨rfl, fun _ => Iff.rfl⟩
  | _ => exact .inl ⟨rfl, by simp⟩

theorem Does.ready (h : g.Does w w' g') (ready : w.initialized.isSome) :
    w'.initialized.isSome := by
  rcases h.initialized with ⟨same, -⟩ | ⟨-, -, -, -, set⟩
  · rwa [same]
  · exact set

/-- What a thread knows after its step is true. -/
theorem Does.fits (h : g.Does w w' g') (fits : g.Fits w) : g'.Fits w' := by
  rcases h.initialized with ⟨same, -⟩ | ⟨number, -, rfl, -, set⟩
  · cases h with
    | idle => exact fits
    | works => exact fits.congr same
    | seesReady ready => exact fun _ => ready
    | findsReady ready => exact ready
    | findsNone none => exact none
    | opens => exact same.trans fits
    | records => exact World.initialized_record ..
    | clears => exact same.trans fits
    | releases | adds => exact fun h => nomatch h
    | removes => trivial
  · exact set

theorem Does.sound (h : g.Does w w' g') (sound : w.Sound) : w'.Sound := by
  cases h with
  | works _ _ _ hosts => unfold World.Sound; rwa [hosts]
  | adds has =>
    intro h mem
    rcases List.mem_append.mp mem with mem | mem
    · exact sound h mem
    · obtain rfl := List.mem_singleton.mp mem
      rw [has]
      rfl
  | removes => exact fun h mem => sound h (List.mem_of_mem_eraseIdx mem)
  | _ => exact sound

/-- A step moves at most one library, from or to the hand of its thread. -/
theorem Does.ledger {stages : ι → Stage} {i : ι} (h : (stages i).Does w w' g')
    (ledger : Ledger w.libraries.opened w.settled fun j => (stages j).hand?) :
    Ledger w'.libraries.opened w'.settled
      (Function.update (fun j => (stages j).hand?) i g'.hand?) := by
  generalize hg : stages i = g at h
  have own : (stages i).hand? = g.hand? := by rw [hg]
  have stays : Ledger w.libraries.opened w.settled
      (Function.update (fun j => (stages j).hand?) i g.hand?) := by
    rwa [← own, Function.update_eq_self]
  cases h with
  | works _ _ libraries hosts =>
    simp only [World.settled, World.housed, libraries, hosts] at stays ⊢
    exact stays
  | opens => exact ledger.opens own
  | clears | releases => exact ledger.gives own (World.settled_releaseLibrary w _)
  | adds has => exact ledger.gives own (World.settled_addHost w has)
  | removes host has => exact ledger.takes own (World.settled_removeHost w host has)
  | _ => exact stays

theorem Passes.fits (h : g.Passes e w w' g') (fits : g.Fits w) : g'.Fits w' := by
  cases h with
  | silent does => exact does.fits fits
  | asks | takes | releases => exact fits
  | attempts | succeeds => trivial
  | _ => exact fun h => nomatch h

theorem Passes.sound (h : g.Passes e w w' g') (sound : w.Sound) : w'.Sound := by
  cases h with
  | silent does => exact does.sound sound
  | _ => exact sound

theorem Passes.ledger {stages : ι → Stage} {i : ι} (h : (stages i).Passes e w w' g')
    (ledger : Ledger w.libraries.opened w.settled fun j => (stages j).hand?) :
    Ledger w'.libraries.opened w'.settled fun j => (Function.update stages i g' j).hand? := by
  have hands : (fun j => (Function.update stages i g' j).hand?) =
      Function.update (fun j => (stages j).hand?) i g'.hand? :=
    funext fun j => Function.apply_update (fun _ => hand?) stages i g' j
  rw [hands]
  -- The lock is no matter of libraries.
  have same (hw : w' = w) (hand : g'.hand? = (stages i).hand?) :
      Ledger w'.libraries.opened w'.settled
        (Function.update (fun j => (stages j).hand?) i g'.hand?) := by
    rw [hw, hand, Function.update_eq_self i fun j => (stages j).hand?]
    exact ledger
  generalize hg : stages i = g at h same
  cases h with
  | silent does => exact (hg ▸ does).ledger ledger
  | _ => exact same rfl rfl

end Stage

/-- An attempt came to a success. -/
def Event.succeeds : Event → Bool
  | leaves .initialization none => true
  | _ => false

/-- How many attempts were a success. -/
def successes (es : List (ι × Event)) : Nat := es.countP fun x => x.2.succeeds

omit [DecidableEq ι] in
theorem successes_concat (es : List (ι × Event)) (i : ι) (e : Event) :
    successes (es ++ [(i, e)]) = successes es + e.succeeds.toNat := by
  rw [successes, List.countP_append, List.countP_singleton]
  cases e.succeeds <;> rfl

namespace Stage

variable {g g' : Stage} {w w' : World} {e : Event}

/-- Nothing about initialization changes in a step, or an attempt initializes
the interpreter, or it ends in a success after that. -/
theorem Passes.counted (h : g.Passes e w w' g') :
    (e.succeeds = false ∧ w'.initialized = w.initialized ∧
        ∀ number, g' = recorded number ↔ g = recorded number) ∨
      (e.succeeds = false ∧ ∃ number, g = opened number ∧ g' = recorded number ∧
        w.initialized = none ∧ w'.initialized.isSome) ∨
      (e.succeeds = true ∧ w' = w ∧ ∃ number, g = recorded number ∧ g' = holding number) := by
  cases h with
  | silent does =>
    rcases does.initialized with same | set
    · exact .inl ⟨rfl, same⟩
    · exact .inr (.inl ⟨rfl, set⟩)
  | succeeds => exact .inr (.inr ⟨rfl, rfl, _, rfl, rfl⟩)
  | asks | takes | releases => exact .inl ⟨rfl, rfl, fun _ => Iff.rfl⟩
  | _ => exact .inl ⟨rfl, rfl, by simp⟩

end Stage

/-! ## All threads -/

/-- The stages of all threads fit together, when so many attempts were
successes. -/
structure Together (stages : ι → Stage) (w : World) (successes : Nat) : Prop where
  fits : ∀ i, (stages i).Fits w
  sound : w.Sound
  ledger : Ledger w.libraries.opened w.settled fun i => (stages i).hand?
  /-- An attempt that initialized the interpreter is the first success. -/
  pending : ∀ i number, stages i = .recorded number → successes = 0
  done : (∀ i number, stages i ≠ .recorded number) →
    successes = w.initialized.isSome.toNat

namespace Together

variable {stages : ι → Stage} {i : ι} {g : Stage} {w w' : World} {e : Event} {n : Nat}

omit [DecidableEq ι] in
/-- The interpreter is not initialized without a success or an attempt that is
about to be one. -/
theorem le_one (h : Together stages w n) : n ≤ 1 := by
  by_cases pending : ∃ i number, stages i = .recorded number
  · obtain ⟨i, number, hi⟩ := pending
    rw [h.pending i number hi]
    exact Nat.zero_le 1
  · rw [h.done fun i number hi => pending ⟨i, number, hi⟩]
    exact Bool.toNat_le _

omit [DecidableEq ι] in
/-- Nothing was a success while the interpreter is not initialized. -/
theorem eq_zero (h : Together stages w n) (unset : w.initialized = none) : n = 0 := by
  refine (h.done fun i number hi => ?_).trans (by rw [unset]; rfl)
  have fits := h.fits i
  rw [hi] at fits
  have set : w.initialized.isSome := fits
  rw [unset] at set
  cases set

/-- A step of one thread keeps all stages together, if no other thread is in an
attempt at the same time. -/
theorem pass (h : Together stages w n) (passes : (stages i).Passes e w w' g)
    (alone : ¬(stages i).Between → ∀ j, j ≠ i → (stages j).Between) :
    Together (Function.update stages i g) w' (n + e.succeeds.toNat) where
  fits j := by
    by_cases hj : j = i
    · subst hj
      rw [Function.update_self]
      exact passes.fits (h.fits j)
    · rw [Function.update_of_ne hj]
      rcases passes.counted with ⟨-, same, -⟩ | ⟨-, number, hi, -, -, set⟩ | ⟨-, rfl, -⟩
      · exact (h.fits j).congr same
      · exact (h.fits j).set (alone (by rw [hi]; exact id) j hj) set
      · exact h.fits j
  sound := passes.sound h.sound
  ledger := passes.ledger h.ledger
  pending j number hj := by
    rcases passes.counted with ⟨no, -, same⟩ | ⟨no, -, -, -, unset, -⟩ | ⟨-, -, k, hi, hg⟩
    · rw [no, Bool.toNat_false, Nat.add_zero]
      by_cases hji : j = i
      · subst hji
        rw [Function.update_self] at hj
        exact h.pending j number ((same number).mp hj)
      · rw [Function.update_of_ne hji] at hj
        exact h.pending j number hj
    · rw [no, h.eq_zero unset]
      rfl
    · by_cases hji : j = i
      · subst hji
        rw [Function.update_self, hg] at hj
        cases hj
      · rw [Function.update_of_ne hji] at hj
        have between := alone (by rw [hi]; exact id) j hji
        rw [hj] at between
        exact between.elim
  done none := by
    rcases passes.counted with ⟨no, same, stage⟩ | ⟨-, number, -, hg, -⟩ | ⟨one, hw, k, hi, -⟩
    · rw [no, same, Bool.toNat_false, Nat.add_zero]
      refine h.done fun j number hj => ?_
      by_cases hji : j = i
      · subst hji
        exact none j number (by rw [Function.update_self]; exact (stage number).mpr hj)
      · exact none j number (by rw [Function.update_of_ne hji]; exact hj)
    · exact (none i number (by rw [Function.update_self, hg])).elim
    · have fits := h.fits i
      rw [hi] at fits
      rw [one, h.pending i k hi, hw, show w.initialized.isSome = true from fits]
      rfl

end Together

end EmbeddedPython
