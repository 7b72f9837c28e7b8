import EmbeddedPython.Proofs.Engine.Closure
import EmbeddedPython.Proofs.Engine.Course

/-!
# Homes of modules

A namespace that is there when work starts is there when it ends, and so is that of
each module that is loaded on the way, even if the module is gone again by then.  No
home that was there already becomes that of a module (`Run.isClosed_anchors`).
-/

namespace EmbeddedPython

namespace Engine

/-- There is a namespace. -/
def Has (e : Engine) (home : Home) : Prop := ∃ ns, e.space? home = some ns

/-- There is a module. -/
def Loads (e : Engine) (home : Home) : Prop := ∃ name, (name, home) ∈ e.loaded

/-- All modules have namespaces. -/
def Anchored (e : Engine) : Prop := ∀ home, e.Loads home → e.Has home

/-- What is true of the modules at any time of some work: their namespaces are there in
the end, and none is at a home that was there without being that of a module. -/
structure Spans (first last now : Engine) : Prop where
  has : ∀ home, now.Loads home → last.Has home
  old : ∀ home, now.Loads home → first.Has home → first.Loads home

variable {e : Engine} {home : Home}

theorem not_has_fresh (e : Engine) : ¬e.Has e.fresh := by
  rintro ⟨ns, there⟩
  rw [e.space?_fresh] at there
  cases there

theorem has_update {other : Home} {f : Namespace → Namespace} :
    (e.update other f).Has home ↔ e.Has home := by
  unfold Has
  simp only [space?_update, Option.map_eq_some_iff]
  exact ⟨fun ⟨_, old, there, _⟩ => ⟨old, there⟩, fun ⟨ns, there⟩ => ⟨_, ns, there, rfl⟩⟩

theorem has_allocate {ns : Namespace} : (e.allocate ns).Has home ↔ e.Has home ∨ home = e.fresh := by
  by_cases same : home = e.fresh
  · subst same
    exact iff_of_true ⟨ns, e.space?_allocate ns⟩ (.inr rfl)
  · unfold Has
    rw [e.space?_allocate_of_ne same, or_iff_left same]

theorem space?_release_eq_some {other : Home} {ns : Namespace} :
    (e.release other).space? home = some ns ↔ e.space? home = some ns ∧ home ≠ other := by
  by_cases same : home = other
  · rw [same, e.space?_release]
    exact iff_of_false (Option.some_ne_none ns).symm fun h => h.2 rfl
  · rw [e.space?_release_of_ne same, and_iff_left same]

theorem has_release {other : Home} : (e.release other).Has home ↔ e.Has home ∧ home ≠ other := by
  unfold Has
  simp only [space?_release_eq_some, exists_and_right]

theorem loads_startLoading {name : String} {other : Home} :
    (e.startLoading name other).Loads home ↔ home = other ∨ e.Loads home := by
  simp only [Loads, startLoading, List.mem_cons, Prod.mk.injEq]
  constructor
  · rintro ⟨named, ⟨-, same⟩ | there⟩
    · exact .inl same
    · exact .inr ⟨named, there⟩
  · rintro (same | ⟨named, there⟩)
    · exact ⟨name, .inl ⟨rfl, same⟩⟩
    · exact ⟨named, .inr there⟩

theorem Loads.of_abandonLoading {name : String} {other : Home}
    (h : (e.abandonLoading name other).Loads home) : e.Loads home :=
  h.imp fun _ there => (List.mem_filter.1 there).1

theorem Anchored.allocate (h : e.Anchored) (ns : Namespace) : (e.allocate ns).Anchored :=
  fun home loads => has_allocate.2 (.inl (h home loads))

end Engine

namespace Run

variable {α β : Type}

/-- Work that takes no namespace away, and at no time has a module whose namespace is
gone in the end or was there in the beginning without a module. -/
structure AnchorsAt (r : Run α) (w : Workspace) : Prop where
  keeps : ∀ home, w.engine.Has home → (r.exec w).2.engine.Has home
  stays : r.Stays (fun v => Engine.Spans w.engine (r.exec w).2.engine v.engine) w

/-- Work that does so wherever all modules have namespaces. -/
def Anchors (r : Run α) : Prop := ∀ w : Workspace, w.engine.Anchored → r.AnchorsAt w

namespace AnchorsAt

variable {r : Run α} {w : Workspace}

theorem last (h : r.AnchorsAt w) : (r.exec w).2.engine.Anchored :=
  fun home loads => h.stays.last.has home loads

/-- Work that leaves the homes as they are and loads nothing. -/
theorem of_stays (anchored : w.engine.Anchored)
    (h : r.Stays (fun v => ∀ home, (v.engine.Has home ↔ w.engine.Has home) ∧
      (v.engine.Loads home → w.engine.Loads home)) w) : r.AnchorsAt w :=
  ⟨fun home => (h.last home).1.2, h.mono fun _ same =>
    ⟨fun home loads => (h.last home).1.2 (anchored home ((same home).2 loads)),
      fun home loads _ => (same home).2 loads⟩⟩

theorem bind {k : α → Run β} (first : r.AnchorsAt w)
    (second : ∀ a, (r.exec w).1 = .ok a → (k a).AnchorsAt (r.exec w).2) :
    (r >>= k).AnchorsAt w := by
  cases ended : (r.exec w).1 with
  | error e =>
    have same : (r >>= k).exec w = (.error e, (r.exec w).2) :=
      exec_bind_error (Prod.ext ended rfl)
    constructor
    · rw [same]
      exact first.keeps
    · rw [same, stays_bind, ended]
      exact ⟨first.stays, fun _ found => nomatch found⟩
  | ok a =>
    have rest := second a ended
    have same : (r >>= k).exec w = (k a).exec (r.exec w).2 := exec_bind_ok (Prod.ext ended rfl)
    constructor
    · rw [same]
      exact fun home has => rest.keeps home (first.keeps home has)
    · rw [same, stays_bind_ok (Prod.ext ended rfl)]
      refine ⟨first.stays.mono fun v now => ?_, rest.stays.mono fun v now => ?_⟩
      · exact ⟨fun home loads => rest.keeps home (now.has home loads), now.old⟩
      · exact ⟨now.has, fun home loads has =>
          first.stays.last.old home (now.old home loads (first.keeps home has)) has⟩

end AnchorsAt

theorem Anchors.bind {r : Run α} {k : α → Run β} (first : r.Anchors)
    (second : ∀ a, (k a).Anchors) : (r >>= k).Anchors := fun w anchored =>
  (first w anchored).bind fun a _ => second a _ (first w anchored).last

theorem Anchors.caught {r : Run α} (h : r.Anchors) : (outcome r).Anchors := by
  intro w anchored
  obtain ⟨keeps, stays⟩ := h w anchored
  constructor
  · rw [exec_outcome]
    exact keeps
  · rw [exec_outcome, stays_outcome]
    exact stays

/-- Work that changes nothing. -/
theorem anchors_of_stays {r : Run α} (h : ∀ (I : Workspace → Prop) w, I w → r.Stays I w) :
    r.Anchors := fun w anchored =>
  .of_stays anchored (h _ w fun _ => ⟨Iff.rfl, id⟩)

theorem anchors_change {f : Engine → Engine}
    (h : ∀ e home, ((f e).Has home ↔ e.Has home) ∧ ((f e).Loads home → e.Loads home)) :
    (change f).Anchors := fun w anchored =>
  .of_stays anchored ((stays_change f w).2 ⟨fun _ => ⟨Iff.rfl, id⟩, h w.engine⟩)

/-- Work with a namespace that is gone afterwards. -/
theorem anchors_calling {ns : Namespace} {body : Home → Run α} {k : Except Raised α → Run β}
    (inner : ∀ space, (body space).Anchors) (rest : ∀ x, (k x).Anchors) :
    (do
      let space ← allocate ns
      let x ← outcome (body space)
      change (·.release space)
      k x).Anchors := by
  intro w anchored
  obtain ⟨keeps, during⟩ := inner w.engine.fresh { w with engine := w.engine.allocate ns }
    (anchored.allocate ns)
  have spans := during.last
  have older {home : Home} (has : w.engine.Has home) : (w.engine.allocate ns).Has home :=
    Engine.has_allocate.2 (.inl has)
  -- No module gets the namespace, since it was there before the body and was none.
  have apart {last e : Engine} {home : Home} (now : Engine.Spans (w.engine.allocate ns) last e)
      (loads : e.Loads home) : home ≠ w.engine.fresh := by
    rintro rfl
    have before : w.engine.Loads w.engine.fresh :=
      now.old _ loads (Engine.has_allocate.2 (.inr rfl))
    exact w.engine.not_has_fresh (anchored _ before)
  constructor
  all_goals
    simp only [exec_calling, stays_calling]
    generalize (body w.engine.fresh).exec { w with engine := w.engine.allocate ns } = ended at *
    have left {home : Home} (has : w.engine.Has home) :
        (ended.2.engine.release w.engine.fresh).Has home := by
      refine Engine.has_release.2 ⟨keeps home (older has), ?_⟩
      rintro rfl
      exact w.engine.not_has_fresh has
    have after := rest ended.1
      { ended.2 with engine := ended.2.engine.release w.engine.fresh } fun home loads =>
        Engine.has_release.2 ⟨spans.has home loads, apart spans loads⟩
  · exact fun home has => after.keeps home (left has)
  · refine ⟨⟨?_, fun home loads _ => loads⟩, during.mono fun v now => ?_,
      after.stays.mono fun v now => ?_⟩
    · exact fun home loads => after.keeps home (left (anchored home loads))
    · exact ⟨fun home loads =>
        after.keeps home (Engine.has_release.2 ⟨now.has home loads, apart now loads⟩),
        fun home loads has => now.old home loads (older has)⟩
    · exact ⟨now.has, fun home loads has =>
        spans.old home (now.old home loads (left has)) (older has)⟩

/-- Work that starts with a new module. -/
theorem anchors_starting {ns : Namespace} {name : String} {k : Home → Run α}
    (rest : ∀ home, (k home).Anchors) :
    (do
      let home ← allocate ns
      change (·.startLoading name home)
      k home).Anchors := by
  intro w anchored
  have older {home : Home} (has : w.engine.Has home) :
      ((w.engine.allocate ns).startLoading name w.engine.fresh).Has home :=
    Engine.has_allocate.2 (.inl has)
  have after := rest w.engine.fresh
    { w with engine := (w.engine.allocate ns).startLoading name w.engine.fresh }
    fun home loads => by
      rcases Engine.loads_startLoading.1 loads with rfl | loads
      · exact Engine.has_allocate.2 (.inr rfl)
      · exact older (anchored home loads)
  have first : Engine.Spans w.engine ((k w.engine.fresh).exec
      { w with engine := (w.engine.allocate ns).startLoading name w.engine.fresh }).2.engine
      w.engine :=
    ⟨fun home loads => after.keeps home (older (anchored home loads)), fun _ loads _ => loads⟩
  constructor
  · rw [exec_bind_ok (exec_allocate ns w), exec_bind_ok (exec_change _ _)]
    exact fun home has => after.keeps home (older has)
  · rw [exec_bind_ok (exec_allocate ns w), exec_bind_ok (exec_change _ _),
      stays_bind_ok (exec_allocate ns w), stays_bind_ok (exec_change _ _)]
    have later := after.stays.mono fun v now => (⟨now.has, fun home loads has => by
      rcases Engine.loads_startLoading.1 (now.old home loads (older has)) with rfl | loads
      · exact absurd has w.engine.not_has_fresh
      · exact loads⟩ : Engine.Spans w.engine _ v.engine)
    have added : Engine.Spans w.engine _ (w.engine.allocate ns) := ⟨first.has, first.old⟩
    exact ⟨(stays_allocate ns w).2 ⟨first, added⟩, (stays_change _ _).2 ⟨added, later.first⟩, later⟩

theorem isStepwise_anchors : IsStepwise .all fun {_} _ r => Anchors r where
  value _ := anchors_of_stays fun _ _ h => h
  raised _ := anchors_of_stays fun _ _ h => h
  bind {_ _ Q _ _ _} first second := first.bind fun a => second a (Q.total (fun _ => trivial) a)
  caught := Anchors.caught
  looks _ rest := Anchors.bind (anchors_of_stays fun _ w => (stays_engine w).2) fun e =>
    rest e e.known_all
  updates _ _ _ := anchors_change fun _ _ => ⟨Engine.has_update, id⟩
  emits v := anchors_change fun _ _ => ⟨Iff.rfl, id⟩
  logs severity message w anchored :=
    .of_stays anchored ((stays_log _ _ w).2 ⟨fun _ => ⟨Iff.rfl, id⟩, fun _ => ⟨Iff.rfl, id⟩⟩)
  writes path text w anchored := by
    refine .of_stays anchored ((stays_writeFile _ _ w).2 ⟨fun _ => ⟨Iff.rfl, id⟩, ?_⟩)
    rw [exec_writeFile]
    split <;> exact fun _ => ⟨Iff.rfl, id⟩
  calling {_ _ Q _ _ _ _} _ inner rest := anchors_calling (fun space => inner space trivial)
    fun x => rest x fun a _ => Q.total (fun _ => trivial) a
  starts _ rest := anchors_starting fun home => rest home trivial
  finishes home := anchors_change fun _ _ => ⟨Iff.rfl, id⟩
  abandons name home := anchors_change fun _ _ => ⟨Iff.rfl, .of_abandonLoading⟩
  searches entries name := anchors_of_stays fun _ w => (stays_search entries name w).2
  reads found := anchors_of_stays fun _ w => (stays_programOf found w).2

end Run

end EmbeddedPython
