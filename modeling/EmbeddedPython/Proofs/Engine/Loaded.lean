import EmbeddedPython.Proofs.Engine.Closure

/-!
# Modules that are loaded

A module that is loaded stays loaded, whatever programs do (`isClosed_retains`),
and its name stands for it from then on: the import of a loaded module runs
nothing (`exec_importModule_of_loaded`).  The import of a name without dots that
stands for no module runs what the search finds (`exec_importModule_of_found`).
-/

namespace EmbeddedPython

/-! ## Names without dots -/

namespace ModuleName

variable {name : String}

private theorem takeWhile_of_forall {cs : List Char} {p : Char → Bool} (h : ∀ c ∈ cs, p c) :
    cs.takeWhile p = cs := by
  have whole : (cs ++ []).takeWhile p = cs ++ [].takeWhile p := List.takeWhile_append_of_pos h
  rwa [List.takeWhile_nil, List.append_nil] at whole

private theorem takeWhile_of_dotless (h : '.' ∉ name.toList) :
    name.toList.takeWhile (· != '.') = name.toList :=
  takeWhile_of_forall fun _ hc => bne_iff_ne.2 fun same => h (same ▸ hc)

theorem head_of_dotless (h : '.' ∉ name.toList) : head name = name := by
  rw [head, takeWhile_of_dotless h, String.ofList_toList]

private theorem cutLast_of_dotless (h : '.' ∉ name.toList) :
    cutLast name.toList = ([], name.toList) := by
  have behind : (name.toList.reverse.takeWhile (· != '.')).reverse = name.toList := by
    rw [takeWhile_of_forall, List.reverse_reverse]
    intro c hc
    exact bne_iff_ne.2 fun same => h (same ▸ List.mem_reverse.1 hc)
  simp [cutLast, behind]

theorem parent?_of_dotless (h : '.' ∉ name.toList) : parent? name = none := by
  rw [parent?, cutLast_of_dotless h]

theorem tail_of_dotless (h : '.' ∉ name.toList) : tail name = name := by
  rw [tail, cutLast_of_dotless h, String.ofList_toList]

end ModuleName

/-! ## Loading -/

namespace Engine

theorem module?_startLoading (e : Engine) (name : String) (home : Home) :
    (e.startLoading name home).module? name = some home :=
  List.lookup_cons_self

/-- The start of another import does not take a module away. -/
theorem isSome_module?_startLoading {e : Engine} {name : String}
    (h : (e.module? name).isSome) (other : String) (home : Home) :
    ((e.startLoading other home).module? name).isSome := by
  show (List.lookup name ((other, home) :: e.loaded)).isSome = true
  rw [List.lookup_cons]
  split
  · rfl
  · exact h

theorem module?_abandonLoading_of_ne (e : Engine) {name other : String} (h : name ≠ other)
    (home : Home) : (e.abandonLoading other home).module? name = e.module? name :=
  Lookup.lookup_without_of_ne h e.loaded

end Engine

namespace Run

variable {α : Type}

/-- The modules that are loaded are loaded at the end as well. -/
def Retains (r : Run α) : Prop :=
  ∀ (w : Workspace) (name : String), (w.engine.module? name).isSome →
    ((r.exec w).2.engine.module? name).isSome

theorem Retains.bind {β : Type} {r : Run α} {k : α → Run β} (first : r.Retains)
    (second : ∀ a, (k a).Retains) : (r >>= k).Retains := by
  intro w name h
  rw [exec_bind]
  cases ended : (r.exec w).1 with
  | ok a => exact second a _ name (first w name h)
  | error e => exact first w name h

/-- Only the module that is being loaded may be gone at the end, and there was
none of that name. -/
theorem retains_load {r : Reach} {name : String} {found : Finder.Finding}
    (program : ∀ home statements, (executeProgram r home statements).Retains) (w : Workspace)
    (absent : w.engine.module? name = none) (other : String)
    (h : (w.engine.module? other).isSome) :
    (((load r name found).exec w).2.engine.module? other).isSome := by
  have ne : other ≠ name := by
    rintro rfl
    rw [absent] at h
    cases h
  have inner : (runFound r w.engine.fresh found).Retains :=
    Retains.bind (fun w name h => by rwa [exec_programOf]) fun _ => program _ _
  have kept := inner { w with engine := starting w.engine name found } other
    (Engine.isSome_module?_startLoading h name _)
  rw [exec_load]
  dsimp only
  split
  · exact kept
  · rw [Engine.module?_abandonLoading_of_ne _ ne]
    exact kept

theorem isClosed_retains : IsClosed @Retains where
  value _ _ _ h := h
  raised _ _ _ h := h
  bind := Retains.bind
  caught h w name present := by
    rw [exec_outcome]
    exact h w name present
  looks _ _ h := h
  updates _ _ _ _ h := h
  emits _ _ _ h := h
  logs severity message w name h := by
    rw [exec_log]
    exact h
  writes path text w name h := by
    rw [exec_writeFile]
    split <;> exact h
  calling ns _ _ inner rest w name h := by
    rw [exec_calling]
    exact rest _ _ name (inner _ _ name h)
  adds _ _ _ _ h := Engine.isSome_module?_startLoading h _ _
  loading {r name entries} program w other h := by
    rw [exec_bind_ok (exec_engine w)]
    split
    · exact h
    · next absent =>
      rw [exec_bind, exec_search]
      split
      · split
        · exact retains_load program w absent other h
        · exact h
      · exact h

/-! ## Imports -/

theorem importWith_of_nonempty (r : Reach) {name : String} (h : name.isEmpty = false) :
    importWith r name = (do
      match (← engine).module? name with
      | some home => return home
      | none => loadNew r name) := by
  unfold importWith
  rw [h]
  rfl

theorem exec_importWith_of_loaded (r : Reach) {name : String} {home : Home} {w : Workspace}
    (nonempty : name.isEmpty = false) (loaded : w.engine.module? name = some home) :
    (importWith r name).exec w = (.ok home, w) := by
  rw [importWith_of_nonempty r nonempty, exec_bind_ok (exec_engine w), loaded]
  rfl

theorem reach_depth :
    reach depth = ⟨callWith (reach (depth - 1)), importWith (reach (depth - 1))⟩ := rfl

/-- A module that is loaded stands for its name, and nothing is run. -/
theorem exec_importModule_of_loaded {name : String} {home top : Home} {w : Workspace}
    (nonempty : (ModuleName.head name).isEmpty = false)
    (loaded : w.engine.module? name = some home)
    (first : w.engine.module? (ModuleName.head name) = some top) :
    (importModule name).exec w = (.ok home, w) := by
  have named : name.isEmpty = false := by
    cases empty : name.isEmpty with
    | false => rfl
    | true =>
      rw [String.isEmpty_iff.1 empty] at nonempty
      cases nonempty
  rw [importModule, reach_depth, exec_bind_ok (exec_importWith_of_loaded _ named loaded),
    exec_bind_ok (exec_importWith_of_loaded _ nonempty first)]
  rfl


/-- The import of a name without dots that stands for no module loads what is
found under it. -/
theorem exec_importWith_of_found (r : Reach) {name : String} {found : Finder.Finding}
    {w : Workspace} (nonempty : name.isEmpty = false) (dotless : '.' ∉ name.toList)
    (absent : w.engine.module? name = none) (foreign : Standard.provides name = false)
    (finds : Finder.search w.files (w.engine.searchPath.map (Finder.directoryOf w.files)) name =
      .ok (some found)) :
    (importWith r name).exec w = (load r name found).exec w := by
  have alone := ModuleName.parent?_of_dotless dotless
  have searched : (search w.engine.searchPath name).exec w = (.ok (some found), w) := by
    rw [exec_search, ModuleName.tail_of_dotless dotless, finds]
  have sought : (places r name).exec w = (.ok w.engine.searchPath, w) := by
    rw [places, alone]
    rfl
  have loaded : (loadFound r name).exec w = (load r name found).exec w := by
    rw [loadFound, exec_bind_ok sought, exec_bind_ok (exec_engine w), absent]
    exact exec_bind_ok searched
  have unparented (home : Home) : bindInParent name home = pure () := by
    unfold bindInParent
    rw [alone]
  rw [importWith_of_nonempty r nonempty, exec_bind_ok (exec_engine w), absent, ← loaded]
  show (loadNew r name).exec w = _
  unfold loadNew
  simp only [foreign, unparented]
  exact exec_bind_pure (loadFound r name) w

/-- The import of such a name runs the program of what is found, and the module
has the namespace in which it ran. -/
theorem exec_importModule_of_found {name : String} {found : Finder.Finding} {w after : Workspace}
    {program : List Statement} (nonempty : name.isEmpty = false) (dotless : '.' ∉ name.toList)
    (absent : w.engine.module? name = none) (foreign : Standard.provides name = false)
    (finds : Finder.search w.files (w.engine.searchPath.map (Finder.directoryOf w.files)) name =
      .ok (some found))
    (compiles : programIn w.files found = .ok program)
    (runs : (executeProgram (reach (depth - 1)) w.engine.fresh program).exec
      { w with engine := starting w.engine name found } = (.ok (), after)) :
    (importModule name).exec w =
      (.ok w.engine.fresh,
        { after with engine := after.engine.finishLoading w.engine.fresh }) := by
  have loads : (importWith (reach (depth - 1)) name).exec w =
      (.ok w.engine.fresh,
        { after with engine := after.engine.finishLoading w.engine.fresh }) := by
    have ended := (exec_runFound (reach (depth - 1)) w.engine.fresh
      (w := { w with engine := starting w.engine name found }) compiles).trans runs
    rw [exec_importWith_of_found _ nonempty dotless absent foreign finds, exec_load]
    dsimp only
    rw [ended]
  -- The name stood for the module when its program started, and still does.
  have there : (after.engine.module? name).isSome := by
    have kept := isClosed_retains.executeProgram (isClosed_retains.reach (depth - 1))
      w.engine.fresh program { w with engine := starting w.engine name found } name
      (by rw [starting, Engine.module?_startLoading]; rfl)
    rwa [runs] at kept
  obtain ⟨top, first⟩ := Option.isSome_iff_exists.1 there
  have again := exec_importWith_of_loaded (reach (depth - 1)) nonempty
    (w := { after with engine := after.engine.finishLoading w.engine.fresh }) first
  rw [importModule, reach_depth, ModuleName.head_of_dotless dotless, exec_bind_ok loads,
    exec_bind_ok again]
  rfl

end Run

end EmbeddedPython
