import EmbeddedPython.Proofs.Engine.Ends
import EmbeddedPython.Proofs.Engine.Kinds

/-!
# Horizons

A `Horizon` says which values programs may get hold of, and in which homes they may
look up and bind names.  An engine is known to a horizon (`Engine.Known`) if programs
find nothing else in these homes, and engines look alike (`Engine.LooksLike`) if they
are the same as far as programs see.
-/

namespace EmbeddedPython

/-- The values that programs may have, and the homes in which they may look up and
bind names. -/
structure Horizon where
  Knows : Value → Prop
  Sees : Home → Prop
  isKind : Value.IsKind Knows
  everywhere : Sees Engine.everywhere
  sees_of_knows {home : Home} (h : Knows (.module home)) : Sees home
  home_of_knows {name : String} {behaviour : Behaviour Value} {home : Home}
    (h : Knows (.function name behaviour home)) : Knows (.module home)
  constant_of_knows {name : String} {v : Value} {home : Home}
    (h : Knows (.function name (.constant v) home)) : Knows v
  knows_function {name : String} {behaviour : Behaviour Value} {home : Home}
    (h : Knows (.module home)) (inert : behaviour.isInert) : Knows (.function name behaviour home)

/-- All values and all homes. -/
def Horizon.all : Horizon where
  Knows _ := True
  Sees _ := True
  isKind := ⟨fun _ => trivial, by simp, by simp, Iff.rfl⟩
  everywhere := trivial
  sees_of_knows _ := trivial
  home_of_knows _ := trivial
  constant_of_knows _ := trivial
  knows_function _ _ := trivial

variable {H : Horizon}

/-- The default values of a code are known. -/
def Code.Known (H : Horizon) (code : Code) : Prop := ∀ d ∈ code.defaults, H.Knows d.2

/-! ## Namespaces -/

/-- All that is bound in a namespace is known. -/
structure Namespace.Known (H : Horizon) (ns : Namespace) : Prop where
  entries : ∀ entry ∈ ns.entries, H.Knows entry.2
  codes : ∀ code ∈ ns.codes, code.Known H

namespace Namespace.Known

variable {ns : Namespace}

theorem get? (h : ns.Known H) {name : String} {v : Value} (found : ns.get? name = some v) :
    H.Knows v :=
  h.entries _ (Lookup.mem_of_lookup found)

theorem set (h : ns.Known H) (key : Key) {v : Value} (known : H.Knows v) :
    (ns.set key v).Known H := by
  refine ⟨fun entry there => ?_, h.codes⟩
  rcases mem_setIn there with rfl | there
  · exact known
  · exact h.entries entry there

theorem erase (h : ns.Known H) (name : String) : (ns.erase name).Known H :=
  ⟨fun entry there => h.entries entry (List.mem_filter.1 there).1, h.codes⟩

theorem noteKey (h : ns.Known H) (key : Key) (typeName : Option String) :
    (ns.noteKey key typeName).Known H := by
  obtain ⟨entries, codes⟩ := entries_noteKey ns key typeName
  exact ⟨entries ▸ h.entries, codes ▸ h.codes⟩

theorem addCode (h : ns.Known H) {code : Code} (known : code.Known H) :
    (ns.addCode code).Known H := by
  refine ⟨h.entries, fun other there => ?_⟩
  rcases List.mem_append.1 there with there | there
  · exact h.codes other there
  · exact List.mem_singleton.1 there ▸ known

theorem ofList {entries : List (String × Value)} (known : ∀ d ∈ entries, H.Knows d.2) :
    (Namespace.ofList entries).Known H := by
  refine ⟨fun entry there => ?_, fun _ there => nomatch there⟩
  obtain ⟨d, hd, rfl⟩ := List.mem_map.1 there
  exact known d hd

theorem empty : Namespace.empty.Known H :=
  ⟨fun _ there => (nomatch there), fun _ there => nomatch there⟩

/-- What belongs to no namespace is known everywhere. -/
theorem ofInert (inert : Value.areInert (ns.entries.map Prod.snd)) (bare : ns.codes = []) :
    ns.Known H :=
  ⟨fun _ there => H.isKind.inert (Value.areInert_iff.1 inert _ (List.mem_map_of_mem there)),
    fun _ there => nomatch bare ▸ there⟩

theorem standardNames (name : String) : (Finder.standardNames name).Known H := by
  refine .ofInert ?_ rfl
  unfold Finder.standardNames
  cases Standard.packageNames.contains name <;> rfl

/-- The names that a module has before its program runs. -/
theorem names (found : Finder.Finding) (name : String) : (found.names name).Known H := by
  have texts (directories : List Path) :
      Value.areInert (directories.map fun d => .str d.display) := by
    rw [Value.areInert_iff]
    intro v there
    obtain ⟨d, -, rfl⟩ := List.mem_map.1 there
    rfl
  refine .ofInert ?_ rfl
  cases found with
  | package _ => rfl
  | file _ => rfl
  | spread directories =>
    show (Value.areInert (directories.map fun d => .str d.display) && _) = true
    rw [texts]
    rfl

end Namespace.Known

/-! ## Engines -/

namespace Engine

/-- In the homes that are seen, all that is bound is known, and so is each module. -/
structure Known (H : Horizon) (e : Engine) : Prop where
  spaces : ∀ home ns, H.Sees home → e.space? home = some ns → ns.Known H
  loaded : ∀ m ∈ e.loaded, H.Knows (.module m.2)

namespace Known

variable {e : Engine}

theorem global? (h : e.Known H) {home : Home} (seen : H.Sees home) {name : String} {v : Value}
    (found : e.global? home name = some v) : H.Knows v := by
  obtain ⟨ns, there, found⟩ := Option.bind_eq_some_iff.1 found
  exact (h.spaces home ns seen there).get? found

theorem resolve? (h : e.Known H) {home : Home} (seen : H.Sees home) {name : String} {v : Value}
    (found : e.resolve? home name = some v) : H.Knows v := by
  rcases Option.or_eq_some_iff.1 found with found | ⟨-, found⟩
  · exact h.global? seen found
  · exact h.global? H.everywhere found

theorem code? (h : e.Known H) {home : Home} (seen : H.Sees home) {index : Nat} {code : Code}
    (found : e.code? home index = some code) : code.Known H := by
  obtain ⟨ns, there, found⟩ := Option.bind_eq_some_iff.1 found
  exact (h.spaces home ns seen there).codes code (List.mem_of_getElem? found)

theorem module? (h : e.Known H) {name : String} {home : Home}
    (found : e.module? name = some home) : H.Knows (.module home) :=
  h.loaded _ (Lookup.mem_of_lookup found)

theorem update (h : e.Known H) (home : Home) {f : Namespace → Namespace}
    (keeps : ∀ ns, ns.Known H → (f ns).Known H) : (e.update home f).Known H := by
  refine ⟨fun other ns seen found => ?_, h.loaded⟩
  rw [space?_update] at found
  obtain ⟨old, there, rfl⟩ := Option.map_eq_some_iff.1 found
  have known := h.spaces other old seen there
  split
  · exact keeps old known
  · exact known

theorem allocate (h : e.Known H) {ns : Namespace} (known : ns.Known H) :
    (e.allocate ns).Known H := by
  refine ⟨fun other new seen found => ?_, h.loaded⟩
  by_cases same : other = e.fresh
  · rw [same, space?_allocate] at found
    exact Option.some.inj found ▸ known
  · rw [e.space?_allocate_of_ne same] at found
    exact h.spaces other new seen found

theorem release (h : e.Known H) (home : Home) : (e.release home).Known H := by
  refine ⟨fun other ns seen found => ?_, h.loaded⟩
  by_cases same : other = home
  · rw [same, e.space?_release] at found
    cases found
  · rw [e.space?_release_of_ne same] at found
    exact h.spaces other ns seen found

theorem startLoading (h : e.Known H) (name : String) {home : Home}
    (known : H.Knows (.module home)) : (e.startLoading name home).Known H :=
  ⟨h.spaces, fun m there => (List.mem_cons.1 there).elim (· ▸ known) (h.loaded m)⟩

theorem finishLoading (h : e.Known H) (home : Home) : (e.finishLoading home).Known H :=
  ⟨h.spaces, h.loaded⟩

theorem abandonLoading (h : e.Known H) (name : String) (home : Home) :
    (e.abandonLoading name home).Known H :=
  ⟨h.spaces, fun m there => h.loaded m (List.mem_filter.1 there).1⟩

end Known

theorem known_all (e : Engine) : e.Known .all :=
  ⟨fun _ _ _ _ => ⟨fun _ _ => trivial, fun _ _ _ _ => trivial⟩, fun _ _ => trivial⟩

/-- The engines are the same as far as programs see. -/
structure LooksLike (H : Horizon) (e e' : Engine) : Prop where
  space? : ∀ home, H.Sees home → e.space? home = e'.space? home
  loaded : e.loaded = e'.loaded
  loading : e.loading = e'.loading
  searchPath : e.searchPath = e'.searchPath

namespace LooksLike

variable {e e' : Engine}

theorem global? (h : e.LooksLike H e') {home : Home} (seen : H.Sees home) (name : String) :
    e.global? home name = e'.global? home name :=
  congrArg (fun ns => ns.bind (·.get? name)) (h.space? home seen)

theorem resolve? (h : e.LooksLike H e') {home : Home} (seen : H.Sees home) (name : String) :
    e.resolve? home name = e'.resolve? home name := by
  unfold Engine.resolve?
  rw [h.global? seen, h.global? H.everywhere]

theorem module? (h : e.LooksLike H e') (name : String) : e.module? name = e'.module? name :=
  congrArg (List.lookup name) h.loaded

end LooksLike

end Engine

/-! ## Frames and flows -/

/-- A frame of which the globals are known and the names of the call are seen. -/
structure Frame.Known (H : Horizon) (f : Frame) : Prop where
  home : H.Knows (.module f.home)
  locals : ∀ l, f.locals = some l → H.Sees l.space

namespace Frame.Known

variable {f : Frame}

theorem sees (h : f.Known H) : H.Sees f.home := H.sees_of_knows h.home

theorem homeOf (h : f.Known H) (name : String) : H.Sees (f.homeOf name) := by
  unfold Frame.homeOf
  split
  · next locals found =>
    split
    · exact h.locals locals found
    · exact h.sees
  · exact h.sees

theorem ofHome {home : Home} (h : H.Knows (.module home)) : (Frame.ofHome home).Known H :=
  ⟨h, fun _ found => nomatch found⟩

theorem inside {home space : Home} (h : H.Knows (.module home)) (seen : H.Sees space)
    (names : List String) (handled : Option Raised) :
    Frame.Known H ⟨home, some ⟨space, names⟩, handled⟩ :=
  ⟨h, fun _ found => Option.some.inj found ▸ seen⟩

theorem handling (h : f.Known H) (e : Raised) : Frame.Known H { f with handled := some e } :=
  ⟨h.home, h.locals⟩

end Frame.Known

/-- The value that statements end with is known, if there is one. -/
def Flow.Known (H : Horizon) : Flow → Prop
  | .returned v => H.Knows v
  | .next | .leave | .proceed => True

theorem Flow.Known.afterRound {flow : Flow} (h : flow.Known H) :
    ∀ ended, Run.afterRound flow = some ended → ended.Known H := by
  intro ended found
  cases flow with
  | next | proceed => cases found
  | leave =>
    cases found
    trivial
  | returned v =>
    cases found
    exact h

/-! ## Results -/

/-- A module of a home is known. -/
abbrev Horizon.KnowsHome (H : Horizon) (home : Home) : Prop := H.Knows (.module home)

/-- What is said of the result of some work.  It says nothing if all values are known. -/
structure Horizon.Post (H : Horizon) (α : Type) where
  Holds : α → Prop
  total (all : ∀ v, H.Knows v) (a : α) : Holds a

namespace Horizon.Post

variable {α : Type}

def any : H.Post α := ⟨fun _ => True, fun _ _ => trivial⟩

def value : H.Post Value := ⟨H.Knows, fun all => all⟩

def home : H.Post Home := ⟨H.KnowsHome, fun all _ => all _⟩

def values : H.Post (List Value) := ⟨fun vs => ∀ v ∈ vs, H.Knows v, fun all _ v _ => all v⟩

def named : H.Post (List (String × Value)) :=
  ⟨fun ds => ∀ d ∈ ds, H.Knows d.2, fun all _ d _ => all d.2⟩

def arguments : H.Post (List Value × List (String × Value)) :=
  ⟨fun a => (∀ v ∈ a.1, H.Knows v) ∧ ∀ d ∈ a.2, H.Knows d.2,
    fun all _ => ⟨fun v _ => all v, fun d _ => all d.2⟩⟩

def flow : H.Post Flow :=
  ⟨Flow.Known H, fun all flow => by cases flow <;> first | exact all _ | trivial⟩

/-- The flow in which a round ended the loop, if it did. -/
def ended : H.Post (Option Flow) :=
  ⟨fun x => ∀ flow, x = some flow → flow.Known H, fun all _ f _ => flow.total all f⟩

def gives (Q : H.Post α) : H.Post (Except Raised α) :=
  ⟨Gives Q.Holds, fun all _ a _ => Q.total all a⟩

end Horizon.Post

end EmbeddedPython
