import EmbeddedPython.Proofs.Engine.Ends

/-!
# The course of work

`Steps.Stays I` says that all states that work passes through have a property `I`,
the first and the last one as well.  Where `Run.exec` tells what becomes of a
workspace in the end, `Run.Stays` tells what happens to it on the way: a program
that changes something and puts it back does not stay.
-/

namespace EmbeddedPython

namespace Steps

variable {σ τ α β : Type} {I : σ → Prop}

/-- All states from the first to the last one have a property. -/
def Stays (I : σ → Prop) : Steps σ α → σ → Prop
  | done _, s => I s
  | step change next, s => I s ∧ (next s).Stays I (change s)

theorem Stays.first {t : Steps σ α} {s : σ} (h : t.Stays I s) : I s := by
  cases t with
  | done a => exact h
  | step change next => exact h.1

theorem Stays.last {t : Steps σ α} {s : σ} (h : t.Stays I s) : I (t.run s).2 := by
  induction t generalizing s with
  | done a => exact h
  | step change next ih => exact ih s h.2

theorem Stays.mono {J : σ → Prop} {t : Steps σ α} {s : σ} (h : t.Stays I s)
    (weaker : ∀ s, I s → J s) : t.Stays J s := by
  induction t generalizing s with
  | done a => exact weaker s h
  | step change next ih => exact ⟨weaker s h.1, ih s h.2⟩

@[simp]
theorem stays_pure (a : α) (s : σ) : (pure a : Steps σ α).Stays I s ↔ I s := Iff.rfl

theorem stays_bind (t : Steps σ α) (k : α → Steps σ β) (s : σ) :
    (t >>= k).Stays I s ↔ t.Stays I s ∧ (k (t.run s).1).Stays I (t.run s).2 := by
  show (t.bind k).Stays I s ↔ _
  induction t generalizing s with
  | done a => exact ⟨fun h => ⟨h.first, h⟩, fun h => h.2⟩
  | step change next ih =>
    show I s ∧ ((next s).bind k).Stays I (change s) ↔ _
    rw [ih s (change s)]
    exact and_assoc.symm

end Steps

/-! ## What is elsewhere -/

/-- Pairs that are taken out by their keys leave the other keys their values. -/
theorem Lookup.lookup_filter {α β : Type} [BEq α] [LawfulBEq α] (keeps : α → Bool) {key : α}
    (h : keeps key) (entries : List (α × β)) :
    (entries.filter fun entry => keeps entry.1).lookup key = entries.lookup key := by
  induction entries with
  | nil => rfl
  | cons entry rest ih =>
    rw [List.filter_cons, List.lookup_cons]
    split
    · rw [List.lookup_cons, ih]
    · next out =>
      have other : (key == entry.1) = false := by
        refine beq_eq_false_iff_ne.2 fun same => out ?_
        rw [← same]
        exact h
      rw [other, ih]

/-- Where something is, nothing new is put. -/
theorem Engine.ne_fresh {e : Engine} {home : Home} {ns : Namespace}
    (there : e.space? home = some ns) : home ≠ e.fresh := by
  rintro rfl
  rw [e.space?_fresh] at there
  cases there

/-- What was in an engine is still in another one: the modules, the namespaces with
all that is bound in them, and what was emitted. -/
structure Engine.Spares (e e' : Engine) : Prop where
  loaded : e'.loaded = e.loaded
  spaces : (e'.spaces.filter fun s => (e.spaces.map Prod.fst).contains s.1) = e.spaces
  emitted : e'.emitted = e.emitted

namespace Engine.Spares

variable {e e' e'' : Engine}

theorem refl (e : Engine) : Spares e e := by
  refine ⟨rfl, List.filter_eq_self.2 fun s hs => ?_, rfl⟩
  rw [List.contains_iff_mem]
  exact List.mem_map_of_mem hs

/-- The namespaces of the first engine are those of its homes in any later one. -/
theorem mem_homes (h : Spares e e') {home : Home} (there : home ∈ e.spaces.map Prod.fst) :
    home ∈ e'.spaces.map Prod.fst := by
  obtain ⟨s, hs, rfl⟩ := List.mem_map.1 there
  rw [← h.spaces] at hs
  exact List.mem_map_of_mem (List.mem_filter.1 hs).1

theorem space? (h : Spares e e') {home : Home} (there : home ∈ e.spaces.map Prod.fst) :
    e'.space? home = e.space? home := by
  have kept : (e.spaces.map Prod.fst).contains home := List.contains_iff_mem.2 there
  unfold Engine.space?
  conv => rhs; rw [← h.spaces, Lookup.lookup_filter _ kept]

theorem trans (h : Spares e e') (h' : Spares e' e'') : Spares e e'' := by
  refine ⟨h'.loaded.trans h.loaded, ?_, h'.emitted.trans h.emitted⟩
  conv => rhs; rw [← h.spaces, ← h'.spaces, List.filter_filter]
  refine List.filter_congr fun s _ => Bool.eq_iff_iff.2 ?_
  rw [Bool.and_eq_true, List.contains_iff_mem, List.contains_iff_mem]
  exact ⟨fun there => ⟨there, h.mem_homes there⟩, And.left⟩

theorem allocate (h : Spares e e') (ns : Namespace) : Spares e (e'.allocate ns) := by
  refine h.trans ⟨rfl, ?_, rfl⟩
  have unused : e'.fresh ∉ e'.spaces.map Prod.fst := by
    intro there
    obtain ⟨s, hs, same⟩ := List.mem_map.1 there
    exact bne_iff_ne.1 (List.lookup_eq_none_iff.1 e'.space?_fresh s hs) same.symm
  rw [Engine.allocate, List.filter_append, (refl e').spaces, List.filter_cons, if_neg,
    List.filter_nil, List.append_nil]
  rwa [List.contains_iff_mem]

theorem update (h : Spares e e') {home : Home} (other : home ∉ e.spaces.map Prod.fst)
    (f : Namespace → Namespace) : Spares e (e'.update home f) := by
  refine ⟨h.loaded, ?_, h.emitted⟩
  conv => rhs; rw [← h.spaces]
  rw [Engine.update, List.filter_map]
  show List.map _ (e'.spaces.filter fun s => (e.spaces.map Prod.fst).contains s.1) = _
  refine (List.map_congr_left fun s hs => ?_).trans (List.map_id _)
  have there := (List.mem_filter.1 hs).2
  rw [List.contains_iff_mem] at there
  have apart : s.1 ≠ home := by
    rintro rfl
    exact other there
  show (s.1, if s.1 = home then f s.2 else s.2) = s
  rw [if_neg apart]

theorem release (h : Spares e e') {home : Home} (other : home ∉ e.spaces.map Prod.fst) :
    Spares e (e'.release home) := by
  refine ⟨h.loaded, ?_, h.emitted⟩
  conv => rhs; rw [← h.spaces]
  rw [Engine.release, List.filter_filter]
  refine List.filter_congr fun s _ => Bool.eq_iff_iff.2 ?_
  rw [Bool.and_eq_true, List.contains_iff_mem]
  refine ⟨And.left, fun there => ⟨there, bne_iff_ne.2 ?_⟩⟩
  rintro rfl
  exact other there

end Engine.Spares

/-! ## Work of the interpreter -/

namespace Run

variable {α β : Type} {I : Workspace → Prop}

/-- All workspaces from the first to the last one have a property. -/
def Stays (I : Workspace → Prop) (r : Run α) (w : Workspace) : Prop := r.run.Stays I w

theorem Stays.first {r : Run α} {w : Workspace} (h : r.Stays I w) : I w := Steps.Stays.first h

theorem Stays.last {r : Run α} {w : Workspace} (h : r.Stays I w) : I (r.exec w).2 :=
  Steps.Stays.last h

@[simp]
theorem stays_pure (a : α) (w : Workspace) : (pure a : Run α).Stays I w ↔ I w := Iff.rfl

@[simp]
theorem stays_throw (e : Raised) (w : Workspace) : (throw e : Run α).Stays I w ↔ I w := Iff.rfl

theorem stays_bind (r : Run α) (k : α → Run β) (w : Workspace) :
    (r >>= k).Stays I w ↔
      r.Stays I w ∧ ∀ a, (r.exec w).1 = .ok a → (k a).Stays I (r.exec w).2 := by
  show (r.run >>= _).Stays I w ↔ _
  rw [Steps.stays_bind]
  refine and_congr_right fun first => ?_
  unfold exec at *
  have last : I (r.run.run w).2 := Steps.Stays.last first
  cases (r.run.run w).1 with
  | ok a =>
    refine ⟨fun h b same => ?_, fun h => h a rfl⟩
    obtain rfl := Except.ok.inj same
    exact h
  | error e => exact ⟨fun _ _ same => (nomatch same), fun _ => last⟩

theorem stays_bind_ok {r : Run α} {k : α → Run β} {w w' : Workspace} {a : α}
    (h : r.exec w = (.ok a, w')) :
    (r >>= k).Stays I w ↔ r.Stays I w ∧ (k a).Stays I w' := by
  rw [stays_bind, h]
  exact and_congr_right fun _ =>
    ⟨fun rest => rest a rfl, fun rest b same => Except.ok.inj same ▸ rest⟩

@[simp]
theorem stays_engine (w : Workspace) : engine.Stays I w ↔ I w := and_self_iff

@[simp]
theorem stays_files (w : Workspace) : files.Stays I w ↔ I w := and_self_iff

@[simp]
theorem stays_change (f : Engine → Engine) (w : Workspace) :
    (change f).Stays I w ↔ I w ∧ I { w with engine := f w.engine } := Iff.rfl

@[simp]
theorem stays_ofExcept (x : Except Raised α) (w : Workspace) :
    (ofExcept x).Stays I w ↔ I w := by
  cases x <;> exact Iff.rfl

@[simp]
theorem stays_outcome (r : Run α) (w : Workspace) : (outcome r).Stays I w ↔ r.Stays I w := by
  show (r.run >>= _).Stays I w ↔ _
  rw [Steps.stays_bind]
  exact and_iff_left_of_imp Steps.Stays.last

@[simp]
theorem stays_programOf (found : Finder.Finding) (w : Workspace) :
    (programOf found).Stays I w ↔ I w := by
  unfold programOf
  cases found.source? with
  | none => exact stays_pure [] w
  | some path =>
    rw [stays_bind_ok (exec_files w), stays_files]
    cases w.files.read path with
    | error fault => exact and_self_iff
    | ok content =>
      rw [stays_ofExcept]
      exact and_self_iff

@[simp]
theorem stays_search (entries : List String) (name : String) (w : Workspace) :
    (search entries name).Stays I w ↔ I w := by
  rw [search, stays_bind_ok (exec_files w), stays_ofExcept, stays_files, and_self_iff]

@[simp]
theorem stays_allocate (ns : Namespace) (w : Workspace) :
    (allocate ns).Stays I w ↔ I w ∧ I { w with engine := w.engine.allocate ns } := by
  rw [allocate, stays_bind_ok (exec_engine w), stays_bind_ok (exec_change _ w)]
  simp only [stays_engine, stays_change, stays_pure]
  exact ⟨fun h => ⟨h.1, h.2.2⟩, fun h => ⟨h.1, h, h.2⟩⟩

@[simp]
theorem stays_log (severity : Severity) (message : String) (w : Workspace) :
    (log severity message).Stays I w ↔
      I w ∧ I { w with files := logged w severity message } := by
  have last : ((log severity message).exec w).2 = { w with files := logged w severity message } :=
    congrArg Prod.snd (exec_log severity message w)
  rw [← last]
  exact Iff.rfl

theorem stays_writeFile (path text : String) (w : Workspace) :
    (writeFile path text).Stays I w ↔ I w ∧ I ((writeFile path text).exec w).2 := by
  have exec_modifyGet {γ : Type} (f : Workspace → γ × Workspace) :
      (modifyGet f : Run γ).exec w = (.ok (f w).1, (f w).2) := rfl
  have stays_modifyGet {γ : Type} (f : Workspace → γ × Workspace) :
      (modifyGet f : Run γ).Stays I w ↔ I w ∧ I (f w).2 := Iff.rfl
  rw [writeFile, stays_bind_ok (exec_modifyGet _), exec_bind_ok (exec_modifyGet _),
    stays_modifyGet, stays_ofExcept, exec_ofExcept, and_assoc, and_self_iff]

/-- Work with a namespace that is gone afterwards. -/
theorem stays_calling (ns : Namespace) (body : Home → Run α) (k : Except Raised α → Run β)
    (w : Workspace) :
    (do
      let space ← allocate ns
      let x ← outcome (body space)
      change (·.release space)
      k x : Run β).Stays I w ↔
      let start : Workspace := { w with engine := w.engine.allocate ns }
      let ended := (body w.engine.fresh).exec start
      I w ∧ (body w.engine.fresh).Stays I start ∧
        (k ended.1).Stays I
          { ended.2 with engine := ended.2.engine.release w.engine.fresh } := by
  rw [stays_bind_ok (exec_allocate ns w), stays_bind_ok (exec_outcome _ _),
    stays_bind_ok (exec_change _ _)]
  simp only [stays_allocate, stays_outcome, stays_change]
  constructor
  · rintro ⟨⟨first, _⟩, inner, _, rest⟩
    exact ⟨first, inner, rest⟩
  · rintro ⟨first, inner, rest⟩
    exact ⟨⟨first, inner.first⟩, inner, ⟨inner.last, rest.first⟩, rest⟩

end Run

end EmbeddedPython
