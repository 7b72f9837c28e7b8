import EmbeddedPython.Proofs.Engine.Course
import EmbeddedPython.Proofs.Engine.Modest
import EmbeddedPython.Proofs.Files.Alike
import Mathlib.Data.List.Nodup

/-!
# Twin workspaces

The same modest program may run in a scope and as a module.  The two workspaces
are never equal: the namespaces of the calls have other homes, and each namespace
of globals has names that the interpreter keeps for itself.  `Twins` is what is
the same nevertheless.

* `Engine.Confined` says of one engine that it differs from another one in
  namespaces of its own only.
* `Namespace.Agree` says of two namespaces that some of their names have the same
  values, all of them modest.
* `Twins` puts these together along a list of pairs of homes: those of the
  namespaces of the calls that are under way.

Work keeps to twins (`Sim`) if it ends the same way on both and leaves twins
behind.  There is one lemma for each single step of the interpreter and for each
way to put work together.
-/

namespace EmbeddedPython

/-! ## Engines with namespaces of their own -/

namespace Engine

/-- The engine without some of its namespaces, and without what was emitted. -/
def outside (own : List Home) (e : Engine) : Engine :=
  { e with spaces := e.spaces.filter fun s => !own.contains s.1, emitted := [] }

theorem space?_outside (e : Engine) {own : List Home} {home : Home} (h : home ∉ own) :
    (e.outside own).space? home = e.space? home :=
  Lookup.lookup_filter (fun home => !own.contains home) (by simpa using h) e.spaces

/-- The engine is another one but for namespaces of its own, which are there. -/
structure Confined (own : List Home) (base e : Engine) : Prop where
  rest : e.outside own = base
  everywhere : everywhere ∉ own
  distinct : own.Nodup
  present : ∀ home ∈ own, (e.space? home).isSome

namespace Confined

variable {own : List Home} {base e : Engine}

theorem space? (h : Confined own base e) {home : Home} (elsewhere : home ∉ own) :
    e.space? home = base.space? home := by
  rw [← h.rest, e.space?_outside elsewhere]

theorem update (h : Confined own base e) {home : Home} (mine : home ∈ own)
    (f : Namespace → Namespace) : Confined own base (e.update home f) := by
  refine ⟨?_, h.everywhere, h.distinct, fun other isMine => ?_⟩
  · rw [← h.rest]
    unfold outside Engine.update
    congr 1
    induction e.spaces with
    | nil => rfl
    | cons s rest ih =>
      rw [List.map_cons, List.filter_cons, List.filter_cons]
      dsimp only
      split
      · next kept =>
        have other : s.1 ≠ home := by
          rintro rfl
          simp [mine] at kept
        rw [if_neg other, ih]
      · exact ih
  · rw [space?_update, Option.isSome_map]
    exact h.present other isMine

theorem emit (h : Confined own base e) (v : Value) : Confined own base (e.emit v) :=
  ⟨h.rest, h.everywhere, h.distinct, h.present⟩

theorem fresh_notMem (h : Confined own base e) : e.fresh ∉ own := by
  intro mine
  have there := h.present _ mine
  rw [e.space?_fresh] at there
  cases there

theorem allocate (h : Confined own base e) (started : (base.space? Engine.everywhere).isSome)
    (ns : Namespace) : Confined (e.fresh :: own) base (e.allocate ns) := by
  have there : (e.space? Engine.everywhere).isSome := by rwa [h.space? h.everywhere]
  have apart : Engine.everywhere ≠ e.fresh := by
    intro same
    rw [same, e.space?_fresh] at there
    cases there
  have unused : ∀ s ∈ e.spaces, s.1 ≠ e.fresh := by
    intro s hs same
    exact bne_iff_ne.1 (List.lookup_eq_none_iff.1 e.space?_fresh s hs) same.symm
  refine ⟨?_, fun mine => ?_, List.nodup_cons.2 ⟨h.fresh_notMem, h.distinct⟩, fun home mine => ?_⟩
  · rw [← h.rest]
    unfold outside Engine.allocate
    congr 1
    rw [List.filter_append]
    have gone : ([(e.fresh, ns)].filter fun s => !(e.fresh :: own).contains s.1) = [] := by simp
    rw [gone, List.append_nil]
    refine List.filter_congr fun s hs => ?_
    simp [unused s hs]
  · exact (List.mem_cons.1 mine).elim apart h.everywhere
  · by_cases same : home = e.fresh
    · rw [same, space?_allocate]
      rfl
    · rw [space?_allocate_of_ne e same]
      exact h.present home ((List.mem_cons.1 mine).resolve_left same)

theorem release {home : Home} (h : Confined (home :: own) base e) :
    Confined own base (e.release home) := by
  obtain ⟨unused, distinct⟩ := List.nodup_cons.1 h.distinct
  refine ⟨?_, fun mine => h.everywhere (List.mem_cons_of_mem _ mine), distinct,
    fun other mine => ?_⟩
  · rw [← h.rest]
    unfold outside Engine.release
    congr 1
    rw [List.filter_filter]
    refine List.filter_congr fun s _ => ?_
    by_cases same : s.1 = home <;> simp [same]
  · rw [space?_release_of_ne e (by rintro rfl; exact unused mine)]
    exact h.present other (List.mem_cons_of_mem _ mine)

/-- Nothing of the other engine is gone. -/
theorem spares (h : Confined own base e) {emitted : List Value} (same : e.emitted = emitted) :
    Engine.Spares { base with emitted } e := by
  obtain ⟨rest, -, -, -⟩ := h
  subst rest
  refine ⟨rfl, List.filter_congr fun s hs => Bool.eq_iff_iff.2 ?_, same⟩
  rw [List.contains_iff_mem, List.mem_map]
  exact ⟨fun ⟨t, there, same⟩ => same ▸ (List.mem_filter.1 there).2,
    fun kept => ⟨s, List.mem_filter.2 ⟨hs, kept⟩, rfl⟩⟩

end Confined

end Engine

/-! ## What twins have in common -/

/-- Where two runs of a program take place, and what each of the workspaces is
without the namespaces of the run. -/
structure Setting where
  /-- The home of the globals, in both. -/
  home : Home
  /-- The program does not emit, log or write anything. -/
  quiet : Bool
  /-- The log, which need not be the same in both. -/
  log : Option Location
  left : Engine
  right : Engine
  /-- What was in the files and what was emitted when a quiet program started. -/
  files : FileSystem
  emitted : List Value
  clock : Clock
  builtins : Namespace
  handler : left.handler = right.handler
  leftEverywhere : left.space? Engine.everywhere = some builtins
  rightEverywhere : right.space? Engine.everywhere = some builtins
  plain : ∀ name v, Scope.isOrdinary name → builtins.get? name = some v → v.isInert

/-- The covered names have the same values in two namespaces, all of them modest, and
the codes are the same. -/
structure Namespace.Agree (home : Home) (quiet : Bool) (covers : String → Bool)
    (a b : Namespace) : Prop where
  same : ∀ name, covers name → a.get? name = b.get? name
  modest : ∀ name v, covers name → a.get? name = some v → v.isModest home quiet
  codes : a.codes = b.codes
  coded : ∀ code ∈ a.codes, code.isModest home quiet
  texts : ∀ entry ∈ a.entries, ∃ name, entry.1 = .name name
  /-- A name that stands for the attributes that are not there is no ordinary one. -/
  lacks : covers "__getattr__" = false → b.get? "__getattr__" = none

namespace Namespace.Agree

variable {home : Home} {quiet : Bool} {covers : String → Bool} {a b : Namespace}

theorem set (h : Agree home quiet covers a b) {name : String} {v : Value}
    (allowed : covers name ∨ name ≠ "__getattr__") (modest : v.isModest home quiet) :
    Agree home quiet covers (a.set (.name name) v) (b.set (.name name) v) := by
  have get? (ns : Namespace) (other : String) :
      (ns.set (.name name) v).get? other = if other = name then some v else ns.get? other := by
    split
    · next same => rw [same, get?_set]
    · next ne => exact get?_set_of_ne ns (fun same => ne (Key.name.inj same)) v
  refine ⟨fun other covered => ?_, fun other x covered found => ?_, h.codes, h.coded,
    fun entry there => ?_, fun uncovered => ?_⟩
  · rw [get?, get?, h.same other covered]
  · rw [get?] at found
    split at found
    · exact Option.some.inj found ▸ modest
    · exact h.modest other x covered found
  · rcases mem_setIn there with rfl | there
    · exact ⟨name, rfl⟩
    · exact h.texts entry there
  · rw [get?, if_neg, h.lacks uncovered]
    rintro rfl
    exact allowed.elim (fun covered => by rw [uncovered] at covered; cases covered) (· rfl)

theorem erase (h : Agree home quiet covers a b) (name : String) :
    Agree home quiet covers (a.erase name) (b.erase name) := by
  have get? (ns : Namespace) (other : String) :
      (ns.erase name).get? other = if other = name then none else ns.get? other := by
    split
    · next same => rw [same, get?_erase]
    · next ne => exact get?_erase_of_ne ns ne
  refine ⟨fun other covered => ?_, fun other x covered found => ?_, h.codes, h.coded,
    fun entry there => h.texts entry (List.mem_filter.1 there).1, fun uncovered => ?_⟩
  · rw [get?, get?, h.same other covered]
  · rw [get?] at found
    split at found
    · cases found
    · exact h.modest other x covered found
  · rw [get?, h.lacks uncovered]
    split <;> rfl

theorem addCode (h : Agree home quiet covers a b) {code : Code}
    (modest : code.isModest home quiet) :
    Agree home quiet covers (a.addCode code) (b.addCode code) := by
  refine ⟨h.same, h.modest, congrArg (· ++ [code]) h.codes, fun other there => ?_, h.texts,
    h.lacks⟩
  rcases List.mem_append.1 there with there | there
  · exact h.coded other there
  · rw [List.mem_singleton.1 there]
    exact modest

theorem noteKey (h : Agree home quiet covers a b) (key : Key) (typeName : Option String) :
    Agree home quiet covers (a.noteKey key typeName) (b.noteKey key typeName) := by
  have get? (ns : Namespace) (name : String) :
      (ns.noteKey key typeName).get? name = ns.get? name := by
    unfold Namespace.get?
    rw [(entries_noteKey ns key typeName).1]
  refine ⟨fun name covered => ?_, fun name v covered found => ?_, ?_, fun code there => ?_,
    fun entry there => ?_, fun uncovered => ?_⟩
  · rw [get?, get?, h.same name covered]
  · rw [get?] at found
    exact h.modest name v covered found
  · rw [(entries_noteKey a key typeName).2, (entries_noteKey b key typeName).2, h.codes]
  · rw [(entries_noteKey a key typeName).2] at there
    exact h.coded code there
  · rw [(entries_noteKey a key typeName).1] at there
    exact h.texts entry there
  · rw [get?, h.lacks uncovered]

/-- The names of a call. -/
theorem ofList (entries : List (String × Value)) (modest : ∀ d ∈ entries, d.2.isModest home quiet) :
    Agree home quiet (fun _ => true) (.ofList entries) (.ofList entries) := by
  refine ⟨fun _ _ => rfl, fun name v _ found => ?_, rfl, fun _ there => (nomatch there),
    fun entry there => ?_, fun uncovered => nomatch uncovered⟩
  · obtain ⟨d, hd, same⟩ := List.mem_map.1 (Lookup.mem_of_lookup found)
    rw [← (Prod.mk.inj same).2]
    exact modest d hd
  · obtain ⟨d, -, rfl⟩ := List.mem_map.1 there
    exact ⟨d.1, rfl⟩

end Namespace.Agree

namespace Setting

/-- A value that the program may work with. -/
abbrev Modest (S : Setting) (v : Value) : Prop := v.isModest S.home S.quiet

theorem isKind (S : Setting) : Value.IsKind S.Modest := Value.isKind_isModest

/-- The pairs of homes of the namespaces of a run: the globals, and the calls that
are under way. -/
def pairs (S : Setting) (calls : List (Home × Home)) : List (Home × Home) :=
  calls ++ [(S.home, S.home)]

/-- The names of a namespace that are the same in both: all names of a call, but of
the globals only the ordinary ones. -/
def covers (S : Setting) (home : Home) (name : String) : Bool :=
  home != S.home || Scope.isOrdinary name

theorem covers_home (S : Setting) : S.covers S.home = Scope.isOrdinary := by
  funext name
  rw [covers, bne_self_eq_false', Bool.false_or]

/-- Of the engine on the left, all that is not of the run is as it was at the
start. -/
def Spares (S : Setting) (w : Workspace) : Prop :=
  Engine.Spares { S.left with emitted := S.emitted } w.engine ∧ w.files = S.files ∧
    w.clock = S.clock

end Setting

/-- Two workspaces that are the same for a modest program. -/
structure Twins (S : Setting) (calls : List (Home × Home)) (w v : Workspace) : Prop where
  left : Engine.Confined ((S.pairs calls).map Prod.fst) S.left w.engine
  right : Engine.Confined ((S.pairs calls).map Prod.snd) S.right v.engine
  spaces : ∀ p ∈ S.pairs calls, ∃ a b, w.engine.space? p.1 = some a ∧ v.engine.space? p.2 = some b ∧
    Namespace.Agree S.home S.quiet (S.covers p.1) a b
  files : w.files.Alike S.log v.files
  clocks : w.clock = S.clock ∧ v.clock = S.clock
  spares : S.quiet → w.files = S.files ∧ w.engine.emitted = S.emitted

namespace Twins

variable {S : Setting} {calls : List (Home × Home)} {w v : Workspace}

theorem handler (h : Twins S calls w v) : w.engine.handler = v.engine.handler := by
  have left := congrArg Engine.handler h.left.rest
  have right := congrArg Engine.handler h.right.rest
  exact left.trans (S.handler.trans right.symm)

theorem stays (h : Twins S calls w v) (quiet : S.quiet) : S.Spares w :=
  ⟨h.left.spares (h.spares quiet).2, (h.spares quiet).1, h.clocks.1⟩

/-- A namespace of both is changed. -/
theorem update (h : Twins S calls w v) {p : Home × Home} (mine : p ∈ S.pairs calls)
    {f g : Namespace → Namespace}
    (keeps : ∀ a b, Namespace.Agree S.home S.quiet (S.covers p.1) a b →
      Namespace.Agree S.home S.quiet (S.covers p.1) (f a) (g b)) :
    Twins S calls { w with engine := w.engine.update p.1 f }
      { v with engine := v.engine.update p.2 g } := by
  refine ⟨h.left.update (List.mem_map_of_mem mine) f, h.right.update (List.mem_map_of_mem mine) g,
    fun q there => ?_, h.files, h.clocks, h.spares⟩
  obtain ⟨a, b, ha, hb, agree⟩ := h.spaces q there
  have first : q.1 = p.1 → q = p := List.inj_on_of_nodup_map h.left.distinct there mine
  have second : q.2 = p.2 → q = p := List.inj_on_of_nodup_map h.right.distinct there mine
  dsimp only
  rw [Engine.space?_update, Engine.space?_update, ha, hb, Option.map_some, Option.map_some]
  by_cases same : q = p
  · rw [if_pos (congrArg Prod.fst same), if_pos (congrArg Prod.snd same), same]
    exact ⟨f a, g b, rfl, rfl, keeps a b (same ▸ agree)⟩
  · rw [if_neg (same ∘ first), if_neg (same ∘ second)]
    exact ⟨a, b, rfl, rfl, agree⟩

theorem emit (h : Twins S calls w v) (loud : S.quiet = false) (x : Value) :
    Twins S calls { w with engine := w.engine.emit x } { v with engine := v.engine.emit x } :=
  ⟨h.left.emit x, h.right.emit x, h.spaces, h.files, h.clocks,
    fun quiet => by rw [loud] at quiet; cases quiet⟩

theorem home_ne_fresh (h : Twins S calls w v) : w.engine.fresh ≠ S.home := by
  intro same
  refine h.left.fresh_notMem (List.mem_map.2 ⟨(S.home, S.home), ?_, same.symm⟩)
  exact List.mem_append_right _ List.mem_cons_self

/-- Both get a namespace for a call. -/
theorem allocate (h : Twins S calls w v) {a b : Namespace}
    (agree : Namespace.Agree S.home S.quiet (fun _ => true) a b) :
    Twins S ((w.engine.fresh, v.engine.fresh) :: calls)
      { w with engine := w.engine.allocate a } { v with engine := v.engine.allocate b } := by
  refine ⟨h.left.allocate (by rw [S.leftEverywhere]; rfl) a,
    h.right.allocate (by rw [S.rightEverywhere]; rfl) b, fun p there => ?_, h.files, h.clocks,
    h.spares⟩
  rcases List.mem_cons.1 there with rfl | there
  · have all : S.covers w.engine.fresh = fun _ => true := by
      funext name
      rw [Setting.covers, bne_iff_ne.2 h.home_ne_fresh, Bool.true_or]
    exact ⟨a, b, w.engine.space?_allocate a, v.engine.space?_allocate b, all ▸ agree⟩
  · obtain ⟨a', b', ha, hb, agree⟩ := h.spaces p there
    have first : p.1 ≠ w.engine.fresh := fun same =>
      h.left.fresh_notMem (same ▸ List.mem_map_of_mem there)
    have second : p.2 ≠ v.engine.fresh := fun same =>
      h.right.fresh_notMem (same ▸ List.mem_map_of_mem there)
    refine ⟨a', b', ?_, ?_, agree⟩
    · rw [← ha]
      exact w.engine.space?_allocate_of_ne first a
    · rw [← hb]
      exact v.engine.space?_allocate_of_ne second b

/-- The namespace of a call is gone from both. -/
theorem release {p : Home × Home} (h : Twins S (p :: calls) w v) :
    Twins S calls { w with engine := w.engine.release p.1 }
      { v with engine := v.engine.release p.2 } := by
  refine ⟨h.left.release, h.right.release, fun q there => ?_, h.files, h.clocks, h.spares⟩
  obtain ⟨a, b, ha, hb, agree⟩ := h.spaces q (List.mem_cons_of_mem p there)
  have first : q.1 ≠ p.1 := fun same =>
    (List.nodup_cons.1 h.left.distinct).1 (same ▸ List.mem_map_of_mem there)
  have second : q.2 ≠ p.2 := fun same =>
    (List.nodup_cons.1 h.right.distinct).1 (same ▸ List.mem_map_of_mem there)
  refine ⟨a, b, ?_, ?_, agree⟩
  · rw [← ha]
    exact w.engine.space?_release_of_ne first
  · rw [← hb]
    exact v.engine.space?_release_of_ne second

/-! ### Names -/

theorem global? (h : Twins S calls w v) {p : Home × Home} (mine : p ∈ S.pairs calls) {name : String}
    (covered : S.covers p.1 name) :
    w.engine.global? p.1 name = v.engine.global? p.2 name ∧
      ∀ x, w.engine.global? p.1 name = some x → S.Modest x := by
  obtain ⟨a, b, ha, hb, agree⟩ := h.spaces p mine
  unfold Engine.global?
  rw [ha, hb]
  exact ⟨agree.same name covered, fun x => agree.modest name x covered⟩

theorem resolve? (h : Twins S calls w v) {name : String} (ordinary : Scope.isOrdinary name) :
    w.engine.resolve? S.home name = v.engine.resolve? S.home name ∧
      ∀ x, w.engine.resolve? S.home name = some x → S.Modest x := by
  have mine : (S.home, S.home) ∈ S.pairs calls := List.mem_append_right _ List.mem_cons_self
  have covered : S.covers S.home name := by rw [Setting.covers, ordinary, Bool.or_true]
  obtain ⟨same, modest⟩ := h.global? mine covered
  have everywhere : w.engine.global? Engine.everywhere name = S.builtins.get? name ∧
      v.engine.global? Engine.everywhere name = S.builtins.get? name := by
    unfold Engine.global?
    rw [h.left.space? h.left.everywhere, h.right.space? h.right.everywhere, S.leftEverywhere,
      S.rightEverywhere]
    exact ⟨rfl, rfl⟩
  unfold Engine.resolve?
  rw [← same, everywhere.1, everywhere.2]
  refine ⟨rfl, fun x found => ?_⟩
  rcases Option.or_eq_some_iff.1 found with found | ⟨-, found⟩
  · exact modest x found
  · exact Value.isModest_of_isInert (S.plain name x ordinary found)

/-- A function has the same code in both. -/
theorem code? (h : Twins S calls w v) (index : Nat) :
    w.engine.code? S.home index = v.engine.code? S.home index ∧
      ∀ code, w.engine.code? S.home index = some code → code.isModest S.home S.quiet := by
  obtain ⟨a, b, ha, hb, agree⟩ :=
    h.spaces (S.home, S.home) (List.mem_append_right _ List.mem_cons_self)
  unfold Engine.code?
  rw [ha, hb]
  show a.codes[index]? = b.codes[index]? ∧ ∀ code, a.codes[index]? = some code → _
  rw [agree.codes]
  exact ⟨rfl, fun code found => agree.coded code (agree.codes ▸ List.mem_of_getElem? found)⟩

end Twins

end EmbeddedPython
