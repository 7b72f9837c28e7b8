import EmbeddedPython.Proofs.Engine.Tidy

/-!
# Namespaces that are hidden

A namespace is hidden from a program if no function or module of it is within the
program's reach.  The program works as if something else were bound there, and leaves
it as it is (`Run.isStepwise_hides`).
-/

namespace EmbeddedPython

namespace Engine

variable {K : Home → Prop}

/-- The engine with other namespaces in place of some. -/
def disguise (e : Engine) (f : Home → Namespace → Namespace) : Engine :=
  { e with spaces := e.spaces.map fun s => (s.1, f s.1 s.2) }

variable {e : Engine} {f : Home → Namespace → Namespace}

theorem space?_disguise (home : Home) : (e.disguise f).space? home = (e.space? home).map (f home) :=
  Lookup.lookup_map f home e.spaces

theorem fresh_disguise : (e.disguise f).fresh = e.fresh := by
  unfold fresh disguise
  rw [List.foldl_map]

theorem disguise_update {home : Home} (fixes : f home = id) (g : Namespace → Namespace) :
    (e.update home g).disguise f = (e.disguise f).update home g := by
  unfold update disguise
  simp only [List.map_map]
  congr 2
  funext s
  show (s.1, f s.1 (if s.1 = home then g s.2 else s.2)) =
    (s.1, if s.1 = home then g (f s.1 s.2) else f s.1 s.2)
  split
  · next same => rw [same, fixes]; rfl
  · rfl

theorem disguise_allocate (fixes : f e.fresh = id) (ns : Namespace) :
    (e.allocate ns).disguise f = (e.disguise f).allocate ns := by
  unfold allocate
  rw [fresh_disguise]
  unfold disguise
  simp only [List.map_append, List.map_cons, List.map_nil, fixes, id]

theorem disguise_release (home : Home) :
    (e.release home).disguise f = (e.disguise f).release home := by
  unfold release disguise
  simp only [List.filter_map]
  rfl

end Engine

/-- The values of some homes, and the names that are bound there. -/
abbrev Horizon.at (K : Home → Prop) (everywhere : K Engine.everywhere) : Horizon :=
  .within K K (fun _ => id) everywhere

/-- All that is out of sight is there. -/
def Engine.Hides (K : Home → Prop) (e : Engine) : Prop := ∀ home, ¬K home → e.Has home

/-- The workspace with other namespaces in place of some. -/
def Workspace.disguise (w : Workspace) (f : Home → Namespace → Namespace) : Workspace :=
  { w with engine := w.engine.disguise f }

namespace Engine

variable {K : Home → Prop} {e : Engine}

theorem Hides.fresh (h : e.Hides K) : K e.fresh :=
  Classical.byContradiction fun out => e.not_has_fresh (h _ out)

theorem looksLike_disguise {everywhere : K Engine.everywhere} {f : Home → Namespace → Namespace}
    (fixes : ∀ home, K home → f home = id) :
    e.LooksLike (.at K everywhere) (e.disguise f) where
  space? home seen := by
    rw [space?_disguise, fixes home seen, Option.map_id]
    rfl
  loaded := rfl
  loading := rfl
  searchPath := rfl

end Engine

namespace Run

variable {α β : Type} {K : Home → Prop} {everywhere : K Engine.everywhere}

/-- How work ends that sees some namespaces only: the others might as well be others,
and they stay as they are. -/
structure HidesAt (Q : (Horizon.at K everywhere).Post α) (r : Run α) (w : Workspace) : Prop where
  blind : ∀ f, (∀ home, K home → f home = id) →
    r.exec (w.disguise f) = ((r.exec w).1, (r.exec w).2.disguise f)
  known : (r.exec w).2.engine.Known (.at K everywhere)
  kept : ∀ home, ¬K home → (r.exec w).2.engine.space? home = w.engine.space? home
  gives : Gives Q.Holds (r.exec w).1

/-- Work that does so wherever it finds nothing of what is hidden. -/
def Hides (Q : (Horizon.at K everywhere).Post α) (r : Run α) : Prop :=
  ∀ w : Workspace, w.engine.Known (.at K everywhere) → w.engine.Hides K → r.HidesAt Q w

theorem HidesAt.hides {Q : (Horizon.at K everywhere).Post α} {r : Run α} {w : Workspace}
    (h : r.HidesAt Q w) (hides : w.engine.Hides K) : (r.exec w).2.engine.Hides K :=
  fun home out => (hides home out).imp fun _ there => (h.kept home out).trans there

theorem hides_ends {Q : (Horizon.at K everywhere).Post α} {r : Run α}
    (gives : ∀ w : Workspace, Gives Q.Holds (r.exec w).1)
    (blind : ∀ f (w : Workspace), r.exec (w.disguise f) = ((r.exec w).1, (r.exec w).2.disguise f))
    (same : ∀ w : Workspace, (r.exec w).2.engine = w.engine) : r.Hides Q := fun w known _ => by
  refine ⟨fun f _ => blind f w, ?_, fun home _ => ?_, gives w⟩
  · rw [same]
    exact known
  · rw [same]

theorem hides_change {f : Engine → Engine}
    (knows : ∀ e, e.Known (.at K everywhere) → (f e).Known (.at K everywhere))
    (blind : ∀ e g, (∀ home, K home → g home = id) → f (e.disguise g) = (f e).disguise g)
    (kept : ∀ e home, ¬K home → (f e).space? home = e.space? home) :
    (change f).Hides (.any : (Horizon.at K everywhere).Post Unit) := fun w known _ =>
  ⟨fun g fixes => congrArg (fun e => (Except.ok (), ({ w with engine := e } : Workspace)))
      (blind w.engine g fixes),
    knows _ known, kept _, fun _ _ => trivial⟩

theorem hides_bind {Q : (Horizon.at K everywhere).Post α} {R : (Horizon.at K everywhere).Post β}
    {r : Run α} {k : α → Run β} (first : r.Hides Q) (second : ∀ a, Q.Holds a → (k a).Hides R) :
    (r >>= k).Hides R := by
  intro w known hides
  have before := first w known hides
  cases ended : (r.exec w).1 with
  | error e =>
    have same : (r >>= k).exec w = (.error e, (r.exec w).2) :=
      exec_bind_error (Prod.ext ended rfl)
    refine ⟨fun f fixes => ?_, ?_, fun home out => ?_, ?_⟩ <;> rw [same]
    · rw [exec_bind_error ((before.blind f fixes).trans (by rw [ended]))]
    · exact before.known
    · exact before.kept home out
    · exact .error e
  | ok a =>
    have same : (r >>= k).exec w = (k a).exec (r.exec w).2 := exec_bind_ok (Prod.ext ended rfl)
    have after := second a (before.gives a ended) _ before.known (before.hides hides)
    refine ⟨fun f fixes => ?_, ?_, fun home out => ?_, ?_⟩ <;> rw [same]
    · rw [exec_bind_ok ((before.blind f fixes).trans (by rw [ended])), after.blind f fixes]
    · exact after.known
    · exact (after.kept home out).trans (before.kept home out)
    · exact after.gives

/-- Work with a namespace that is gone afterwards. -/
theorem hides_calling {Q : (Horizon.at K everywhere).Post α} {R : (Horizon.at K everywhere).Post β}
    {ns : Namespace} {body : Home → Run α} {k : Except Raised α → Run β}
    (given : ns.Known (.at K everywhere)) (inner : ∀ space, K space → (body space).Hides Q)
    (rest : ∀ x, Gives Q.Holds x → (k x).Hides R) :
    (do
      let space ← allocate ns
      let x ← outcome (body space)
      change (·.release space)
      k x).Hides R := by
  intro w known hides
  have seen := hides.fresh
  have apart {home : Home} (out : ¬K home) : home ≠ w.engine.fresh := by
    rintro rfl
    exact out seen
  have during := inner w.engine.fresh seen { w with engine := w.engine.allocate ns }
    (known.allocate given) fun home out => Engine.has_allocate.2 (.inl (hides home out))
  have left (home : Home) (out : ¬K home) :
      (((body w.engine.fresh).exec { w with engine := w.engine.allocate ns }).2.engine.release
        w.engine.fresh).space? home = w.engine.space? home := by
    rw [Engine.space?_release_of_ne _ (apart out), during.kept home out]
    exact Engine.space?_allocate_of_ne _ (apart out) ns
  have after := rest _ during.gives
    { ((body w.engine.fresh).exec { w with engine := w.engine.allocate ns }).2 with
      engine := ((body w.engine.fresh).exec
        { w with engine := w.engine.allocate ns }).2.engine.release w.engine.fresh }
    (during.known.release _)
    fun home out => (hides home out).imp fun _ there => (left home out).trans there
  refine ⟨fun f fixes => ?_, ?_, fun home out => ?_, ?_⟩ <;> simp only [exec_calling]
  · have begun : ({ w.disguise f with engine := (w.disguise f).engine.allocate ns } : Workspace) =
        Workspace.disguise { w with engine := w.engine.allocate ns } f :=
      congrArg (fun e => ({ w with engine := e } : Workspace))
        (Engine.disguise_allocate (fixes _ seen) ns).symm
    have same : (w.disguise f).engine.fresh = w.engine.fresh := Engine.fresh_disguise
    rw [same, begun, during.blind f fixes, ← after.blind f fixes]
    exact congrArg (fun e => (k _).exec ({ files := _, engine := e, clock := _ } : Workspace))
      (Engine.disguise_release _).symm
  · exact after.known
  · exact (after.kept home out).trans (left home out)
  · exact after.gives

/-- Work that starts with a new module. -/
theorem hides_starting {Q : (Horizon.at K everywhere).Post α} {ns : Namespace} {name : String}
    {k : Home → Run α} (given : ns.Known (.at K everywhere))
    (rest : ∀ home, (Horizon.at K everywhere).KnowsHome home → (k home).Hides Q) :
    (do
      let home ← allocate ns
      change (·.startLoading name home)
      k home).Hides Q := by
  intro w known hides
  have seen := hides.fresh
  have left (home : Home) (out : ¬K home) :
      ((w.engine.allocate ns).startLoading name w.engine.fresh).space? home =
        w.engine.space? home := by
    refine Engine.space?_allocate_of_ne _ ?_ ns
    rintro rfl
    exact out seen
  have after := rest w.engine.fresh seen
    { w with engine := (w.engine.allocate ns).startLoading name w.engine.fresh }
    ((known.allocate given).startLoading name seen)
    fun home out => (hides home out).imp fun _ there => (left home out).trans there
  have begun (w : Workspace) : (do
      let home ← allocate ns
      change (·.startLoading name home)
      k home).exec w = (k w.engine.fresh).exec
        { w with engine := (w.engine.allocate ns).startLoading name w.engine.fresh } := by
    rw [exec_bind_ok (exec_allocate ns w), exec_bind_ok (exec_change _ _)]
  refine ⟨fun f fixes => ?_, ?_, fun home out => ?_, ?_⟩ <;> simp only [begun]
  · have same : (w.disguise f).engine.fresh = w.engine.fresh := Engine.fresh_disguise
    rw [same, ← after.blind f fixes]
    exact congrArg (fun e => (k _).exec
      ({ w with engine := e.startLoading name w.engine.fresh } : Workspace))
      (Engine.disguise_allocate (fixes _ seen) ns).symm
  · exact after.known
  · exact (after.kept home out).trans (left home out)
  · exact after.gives

/-- Work in sight of some namespaces does not depend on the others. -/
theorem isStepwise_hides : IsStepwise (.at K everywhere) fun {_} Q r => r.Hides Q where
  value h := hides_ends (fun _ => .ok h) (fun _ _ => rfl) fun _ => rfl
  raised e := hides_ends (fun _ => .error e) (fun _ _ => rfl) fun _ => rfl
  bind := hides_bind
  caught {_ Q r} h w known hides := by
    have inner := h w known hides
    refine ⟨fun f fixes => ?_, ?_, fun home out => ?_, ?_⟩
    · rw [exec_outcome, exec_outcome, inner.blind f fixes]
    · rw [exec_outcome]
      exact inner.known
    · rw [exec_outcome]
      exact inner.kept home out
    · rw [exec_outcome]
      exact .ok inner.gives
  looks {_ R k} blind rest w known hides := by
    have inner := rest w.engine known w known hides
    refine ⟨fun f fixes => ?_, inner.known, inner.kept, inner.gives⟩
    have same : k (w.disguise f).engine = k w.engine :=
      (blind _ _ (Engine.looksLike_disguise fixes)).symm
    rw [exec_bind_ok (exec_engine _), same, inner.blind f fixes]
    rfl
  updates {home} seen {f} keeps := hides_change (fun _ known => known.update home keeps)
    (fun e g fixes => (e.disguise_update (fixes home seen) f).symm) fun e other out => by
      rw [Engine.space?_update]
      have apart : other ≠ home := by
        rintro rfl
        exact out seen
      simp only [if_neg apart, Option.map_id']
  emits v := hides_change (fun _ known => ⟨known.spaces, known.loaded⟩) (fun _ _ _ => rfl)
    fun _ _ _ => rfl
  logs severity message := hides_ends (fun _ _ _ => trivial) (fun f w => by
    rw [exec_log, exec_log]
    rfl) fun w => by rw [exec_log]
  writes path text := hides_ends (fun _ _ _ => trivial) (fun f w => by
    have same : (w.disguise f).files = w.files := rfl
    rw [exec_writeFile, exec_writeFile, same]
    cases w.files.write (Path.ofText path) (Octets.ofText text) <;> rfl) fun w => by
      rw [exec_writeFile]
      split <;> rfl
  calling given inner rest := hides_calling given inner rest
  starts given rest := hides_starting given rest
  finishes home := hides_change (fun _ known => known.finishLoading home) (fun _ _ _ => rfl)
    fun _ _ _ => rfl
  abandons name home := hides_change (fun _ known => known.abandonLoading name home)
    (fun _ _ _ => rfl) fun _ _ _ => rfl
  searches entries name := hides_ends (fun _ _ _ => trivial) (fun f w => by
    rw [exec_search, exec_search]
    rfl) fun w => by rw [exec_search]
  reads found := hides_ends (fun _ _ _ => trivial) (fun f w => by
    rw [exec_programOf, exec_programOf]
    rfl) fun w => by rw [exec_programOf]

end Run

end EmbeddedPython
