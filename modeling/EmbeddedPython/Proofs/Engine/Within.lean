import EmbeddedPython.Proofs.Engine.Homes

/-!
# Values of some homes

`Value.Within K` says that the functions and modules in a value are of homes in `K`.
If all that is bound is within `K`, and so are the modules that a program loads, then
all that it binds is within `K` as well (`Run.isStepwise_staysWithin`): a program gets
hold of nothing that was made elsewhere.
-/

namespace EmbeddedPython

/-! ## Values -/

namespace Value

variable (K : Home → Prop)

mutual

/-- The functions and modules in the value are of homes in `K`, and no function comes
with another one. -/
def Within : Value → Prop
  | list items | tuple items => AllWithin items
  | derived _ base => base.Within
  | function _ behaviour home => K home ∧ behaviour.isInert
  | module home => K home
  | _ => True

/-- The same for values in a row. -/
def AllWithin : List Value → Prop
  | [] => True
  | v :: rest => v.Within ∧ AllWithin rest

end

variable {K}

theorem allWithin_iff {vs : List Value} : AllWithin K vs ↔ ∀ v ∈ vs, v.Within K := by
  induction vs with
  | nil => simp [AllWithin]
  | cons v rest ih => simp [AllWithin, ih]

mutual

theorem within_of_isInert {v : Value} (h : v.isInert) : v.Within K := by
  cases v with
  | list items | tuple items =>
    rw [isInert] at h
    rw [Within]
    exact allWithin_of_areInert h
  | derived name base =>
    rw [isInert] at h
    rw [Within]
    exact within_of_isInert h
  | function name behaviour home => cases h
  | module home => cases h
  | _ => trivial

theorem allWithin_of_areInert {vs : List Value} (h : areInert vs) : AllWithin K vs := by
  cases vs with
  | nil => trivial
  | cons v rest =>
    rw [areInert, Bool.and_eq_true] at h
    exact ⟨within_of_isInert h.1, allWithin_of_areInert h.2⟩

end

mutual

theorem Within.mono {K' : Home → Prop} (wider : ∀ home, K home → K' home) {v : Value}
    (h : v.Within K) : v.Within K' := by
  cases v with
  | list items | tuple items => exact AllWithin.mono wider h
  | derived name base => exact Within.mono (v := base) wider h
  | function name behaviour home => exact ⟨wider home h.1, h.2⟩
  | module home => exact wider home h
  | _ => trivial

theorem AllWithin.mono {K' : Home → Prop} (wider : ∀ home, K home → K' home) {vs : List Value}
    (h : AllWithin K vs) : AllWithin K' vs := by
  cases vs with
  | nil => trivial
  | cons v rest => exact ⟨h.1.mono wider, AllWithin.mono wider h.2⟩

end

mutual

theorem Within.and {K' : Home → Prop} {v : Value} (h : v.Within K) (h' : v.Within K') :
    v.Within fun home => K home ∧ K' home := by
  cases v with
  | list items | tuple items => exact AllWithin.and h h'
  | derived name base => exact Within.and (v := base) h h'
  | function name behaviour home => exact ⟨⟨h.1, h'.1⟩, h.2⟩
  | module home => exact ⟨h, h'⟩
  | _ => trivial

theorem AllWithin.and {K' : Home → Prop} {vs : List Value} (h : AllWithin K vs)
    (h' : AllWithin K' vs) : AllWithin (fun home => K home ∧ K' home) vs := by
  cases vs with
  | nil => trivial
  | cons v rest => exact ⟨h.1.and h'.1, AllWithin.and h.2 h'.2⟩

end

theorem isKind_within : IsKind (Within K) where
  inert := within_of_isInert
  list := allWithin_iff
  tuple := allWithin_iff
  derived := Iff.rfl

end Value

/-! ## Horizons -/

/-- The values of some homes, and the homes that a program looks at. -/
def Horizon.within (K Sees : Home → Prop) (sees : ∀ home, K home → Sees home)
    (everywhere : Sees Engine.everywhere) : Horizon where
  Knows := Value.Within K
  Sees := Sees
  isKind := Value.isKind_within
  everywhere := everywhere
  sees_of_knows h := sees _ h
  home_of_knows h := h.1
  constant_of_knows h := Value.within_of_isInert h.2
  knows_function h inert := ⟨h, inert⟩

/-- The values of some homes, wherever they are bound. -/
abbrev Horizon.of (K : Home → Prop) : Horizon :=
  .within K (fun _ => True) (fun _ _ => trivial) trivial

theorem Engine.Known.map {H H' : Horizon} {e : Engine} (h : e.Known H)
    (knows : ∀ v, H.Knows v → H'.Knows v) (sees : ∀ home, H'.Sees home → H.Sees home) :
    e.Known H' where
  spaces home ns seen there :=
    have known := h.spaces home ns (sees home seen) there
    ⟨fun entry isEntry => knows _ (known.entries entry isEntry),
      fun code isCode d isDefault => knows _ (known.codes code isCode d isDefault)⟩
  loaded m there := knows _ (h.loaded m there)

/-- All that is bound is within a wider range as well. -/
theorem Engine.Known.widen {K K' : Home → Prop} {e : Engine} (h : e.Known (.of K))
    (wider : ∀ home, K home → K' home) : e.Known (.of K') :=
  h.map (fun _ => .mono wider) fun _ => id

namespace Run

variable {α β : Type} {K : Home → Prop}

/-- If the modules that are loaded on the way are of homes in `K`, then so is all that
work leaves. -/
def StaysWithin (Q : (Horizon.of K).Post α) (r : Run α) : Prop :=
  ∀ w : Workspace, w.engine.Known (.of K) →
    r.Stays (fun v => ∀ home, v.engine.Loads home → K home) w →
    (r.exec w).2.engine.Known (.of K) ∧ Gives Q.Holds (r.exec w).1

theorem staysWithin_ends {Q : (Horizon.of K).Post α} {r : Run α} {x : Except Raised α}
    (gives : Gives Q.Holds x) (h : ∀ w, (r.exec w).1 = x ∧ (r.exec w).2.engine = w.engine) :
    r.StaysWithin Q := by
  intro w known _
  rw [(h w).1, (h w).2]
  exact ⟨known, gives⟩

theorem staysWithin_change {f : Engine → Engine}
    (h : ∀ e, e.Known (.of K) → (f e).Known (.of K)) :
    (change f).StaysWithin (.any : (Horizon.of K).Post Unit) := fun w known _ =>
  ⟨h w.engine known, fun _ _ => trivial⟩

theorem staysWithin_bind {Q : (Horizon.of K).Post α} {R : (Horizon.of K).Post β} {r : Run α}
    {k : α → Run β} (first : r.StaysWithin Q) (second : ∀ a, Q.Holds a → (k a).StaysWithin R) :
    (r >>= k).StaysWithin R := by
  intro w known stays
  obtain ⟨before, after⟩ := (stays_bind r k w).1 stays
  obtain ⟨left, gives⟩ := first w known before
  rw [exec_bind]
  cases ended : (r.exec w).1 with
  | error e => exact ⟨left, .error e⟩
  | ok a => exact second a (gives a ended) _ left (after a ended)

/-- Nothing is bound that is not within `K`. -/
theorem isStepwise_staysWithin : IsStepwise (.of K) fun {_} Q r => r.StaysWithin Q where
  value h := staysWithin_ends (.ok h) fun _ => ⟨rfl, rfl⟩
  raised e := staysWithin_ends (.error e) fun _ => ⟨rfl, rfl⟩
  bind := staysWithin_bind
  caught {_ Q r} h w known stays := by
    rw [exec_outcome]
    obtain ⟨left, gives⟩ := h w known ((stays_outcome r w).1 stays)
    exact ⟨left, .ok gives⟩
  looks _ rest w known stays :=
    rest w.engine known w known ((stays_bind_ok (exec_engine w)).1 stays).2
  updates {_} _ {_} keeps := staysWithin_change fun _ known => known.update _ keeps
  emits v := staysWithin_change fun _ known => ⟨known.spaces, known.loaded⟩
  logs severity message :=
    staysWithin_ends (x := .ok ()) (fun _ _ => trivial) fun w => by
      rw [exec_log]
      exact ⟨rfl, rfl⟩
  writes path text w known _ := by
    rw [exec_writeFile]
    split <;> exact ⟨known, fun _ _ => trivial⟩
  calling {_ _ Q R ns body k} given inner rest w known stays := by
    obtain ⟨-, during, after⟩ := (stays_calling ns body k w).1 stays
    obtain ⟨left, gives⟩ := inner w.engine.fresh trivial
      { w with engine := w.engine.allocate ns } (known.allocate given) during
    rw [exec_calling]
    exact rest _ gives _ (left.release _) after
  starts {_ Q ns name k} given rest w known stays := by
    obtain ⟨-, started⟩ := (stays_bind_ok (exec_allocate ns w)).1 stays
    obtain ⟨loaded, after⟩ := (stays_bind_ok (exec_change _ _)).1 started
    have mine : K w.engine.fresh := after.first _ (Engine.loads_startLoading.2 (.inl rfl))
    rw [exec_bind_ok (exec_allocate ns w), exec_bind_ok (exec_change _ _)]
    exact rest w.engine.fresh mine _ ((known.allocate given).startLoading name mine) after
  finishes home := staysWithin_change fun _ known => known.finishLoading home
  abandons name home := staysWithin_change fun _ known => known.abandonLoading name home
  searches entries name w known _ := by
    rw [exec_search]
    exact ⟨known, fun _ _ => trivial⟩
  reads found w known _ := by
    rw [exec_programOf]
    exact ⟨known, fun _ _ => trivial⟩

/-- All that is left of work is of a home that was known before, or of one that is
there. -/
theorem known_of_anchorsAt {r : Run α} {w : Workspace} (anchors : r.AnchorsAt w)
    (known : w.engine.Known (.of K))
    {Q : (Horizon.of fun home => K home ∨ (r.exec w).2.engine.Has home).Post α}
    (within : r.StaysWithin Q) :
    (r.exec w).2.engine.Known (.of fun home => K home ∨ (r.exec w).2.engine.Has home) :=
  (within w (known.widen fun _ => .inl)
    (anchors.stays.mono fun _ now _ loads => .inr (now.has _ loads))).1

end Run

end EmbeddedPython
