import EmbeddedPython.Proofs.Engine.Agreement

/-!
# Where modest programs start

A modest program sees none of the names that its namespace has before it starts, so
two namespaces with different names of that sort are the same to it
(`Namespace.Agree.ofSecret`).  `Setting.of` is the setting of a program that is
about to run in a home of two workspaces, and `Setting.twins` says that they are
twins.

`Engine.Hosts` is the other end of it: a quiet program changes nothing but the
namespace that it runs in, as an engine sees it that was there before
(`Hosts.runProgram` and `Hosts.call`).
-/

namespace EmbeddedPython

/-- Of the names that are bound everywhere, the ordinary ones stand for no function
or module of a program. -/
def Engine.Plain (e : Engine) : Prop :=
  ∃ ns, e.space? everywhere = some ns ∧
    ∀ name v, Scope.isOrdinary name → ns.get? name = some v → v.isInert

theorem Standard.plain (name : String) (v : Value) (h : builtins.get? name = some v) :
    v.isInert := by
  have all : ∀ entry ∈ builtins.entries, entry.2.isInert := by decide +kernel
  exact all _ (Lookup.mem_of_lookup h)

/-- Two workspaces in which a program may run in the same home: what is bound
everywhere is the same and plain. -/
structure Workspace.Fit (home : Home) (builtins : Namespace) (w v : Workspace) : Prop where
  apart : home ≠ Engine.everywhere
  left : w.engine.space? Engine.everywhere = some builtins
  right : v.engine.space? Engine.everywhere = some builtins
  plain : ∀ name v, Scope.isOrdinary name → builtins.get? name = some v → v.isInert
  handler : w.engine.handler = v.engine.handler
  clock : w.clock = v.clock

namespace Setting

variable {home : Home} {builtins : Namespace} {w v : Workspace}

/-- The setting of a program that is about to run. -/
def of (quiet : Bool) (log : Option Location) (h : w.Fit home builtins v) : Setting where
  home
  quiet
  log
  left := w.engine.outside [home]
  right := v.engine.outside [home]
  files := w.files
  emitted := w.engine.emitted
  clock := w.clock
  builtins
  handler := h.handler
  leftEverywhere := by
    rw [Engine.space?_outside _ fun there => h.apart (List.mem_singleton.1 there).symm, h.left]
  rightEverywhere := by
    rw [Engine.space?_outside _ fun there => h.apart (List.mem_singleton.1 there).symm, h.right]
  plain := h.plain

theorem twins {quiet : Bool} {log : Option Location} (h : w.Fit home builtins v) {a b : Namespace}
    (left : w.engine.space? home = some a) (right : v.engine.space? home = some b)
    (agree : Namespace.Agree home quiet Scope.isOrdinary a b) (files : w.files.Alike log v.files) :
    Twins (of quiet log h) [] w v := by
  have confined {e : Engine} {ns : Namespace} (there : e.space? home = some ns) :
      Engine.Confined [home] (e.outside [home]) e := by
    refine ⟨rfl, fun same => h.apart (List.mem_singleton.1 same).symm, List.nodup_singleton home,
      fun other same => ?_⟩
    rw [List.mem_singleton.1 same, there]
    rfl
  have covers : (of quiet log h).covers home = Scope.isOrdinary := (of quiet log h).covers_home
  refine ⟨confined left, confined right, fun p same => ?_, files, ⟨rfl, h.clock.symm⟩,
    fun _ => ⟨rfl, rfl⟩⟩
  obtain rfl := List.mem_singleton.1 same
  exact ⟨a, b, left, right, covers.symm ▸ agree⟩

end Setting

namespace Engine

theorem Spares.outside {e e' : Engine} (h : Spares e e') {own : List Home}
    (new : ∀ home ∈ own, home ∉ e.spaces.map Prod.fst) :
    Spares e { e'.outside own with emitted := e'.emitted } := by
  refine ⟨h.loaded, ?_, h.emitted⟩
  conv => rhs; rw [← h.spaces]
  unfold Engine.outside
  rw [List.filter_filter]
  refine List.filter_congr fun s _ => Bool.eq_iff_iff.2 ?_
  rw [Bool.and_eq_true, List.contains_iff_mem, Bool.not_eq_true', ← Bool.not_eq_true,
    List.contains_iff_mem]
  exact ⟨And.left, fun there => ⟨there, fun mine => new _ mine there⟩⟩

/-- A home in which a quiet program works, as an engine sees it that was there
before. -/
structure Hosts (e : Engine) (home : Home) (w : Workspace) : Prop where
  plain : e.Plain
  spares : e.Spares w.engine
  new : home ∉ e.spaces.map Prod.fst
  names : ∃ ns, w.engine.space? home = some ns ∧ Namespace.Agree home true Scope.isOrdinary ns ns

namespace Hosts

variable {e : Engine} {home : Home} {w : Workspace} {α : Type}

/-- Work that agrees with itself, without a sound, leaves alone what was there. -/
theorem leaves (h : e.Hosts home w) {r : Run α}
    (agree : ∀ S : Setting, S.home = home → S.quiet = true → ∃ Q, Run.Agree S [] Q r r) :
    r.Stays (fun u => e.Spares u.engine ∧ u.files = w.files ∧ u.clock = w.clock) w ∧
      e.Hosts home (r.exec w).2 := by
  obtain ⟨builtins, there, plain⟩ := h.plain
  have mine : everywhere ∈ e.spaces.map Prod.fst := List.mem_map_of_mem (Lookup.mem_of_lookup there)
  have still : w.engine.space? everywhere = some builtins := (h.spares.space? mine).trans there
  have apart : home ≠ everywhere := fun same => h.new (same ▸ mine)
  have fit : w.Fit home builtins w := ⟨apart, still, still, plain, rfl, rfl⟩
  obtain ⟨ns, found, modest⟩ := h.names
  have twins : Twins (Setting.of true none fit) [] w w :=
    Setting.twins fit found found modest (.refl_of_none w.files)
  obtain ⟨Q, agrees⟩ := agree (.of true none fit) rfl rfl
  obtain ⟨-, -, after, stays⟩ := agrees w w twins
  have own : ∀ other ∈ [home], other ∉ e.spaces.map Prod.fst := fun other same =>
    List.mem_singleton.1 same ▸ h.new
  have outside := h.spares.outside own
  have kept : r.Stays (fun u => e.Spares u.engine ∧ u.files = w.files ∧ u.clock = w.clock) w := by
    refine (stays rfl).mono fun u spared => ⟨outside.trans ?_, spared.2⟩
    exact spared.1
  obtain ⟨a, b, ha, hb, agreed⟩ := after.spaces (home, home) List.mem_cons_self
  obtain rfl : a = b := Option.some.inj (ha.symm.trans hb)
  exact ⟨kept, h.plain, kept.last.1, h.new, a, ha, (Setting.of true none fit).covers_home ▸ agreed⟩

theorem moved (h : e.Hosts home w) {u : Workspace} (spares : e.Spares u.engine)
    (same : u.engine.space? home = w.engine.space? home) : e.Hosts home u :=
  ⟨h.plain, spares, h.new, same ▸ h.names⟩

theorem runProgram (h : e.Hosts home w) {program : List Statement}
    (modest : Statement.areModest true none program) :
    (Run.runProgram home program).Stays
        (fun u => e.Spares u.engine ∧ u.files = w.files ∧ u.clock = w.clock) w ∧
      e.Hosts home ((Run.runProgram home program).exec w).2 := by
  refine h.leaves fun S same quiet => ⟨fun _ => True, ?_⟩
  rw [← same]
  exact Run.agree_executeProgram (Run.agrees_reach S _) (quiet ▸ modest)

theorem call (h : e.Hosts home w) {f : Value} (modest : f.isModest home true)
    {args : List Value} (inert : ∀ v ∈ args, v.isInert) :
    (Run.call f args).Stays
      (fun u => e.Spares u.engine ∧ u.files = w.files ∧ u.clock = w.clock) w := by
  refine (h.leaves fun S same quiet => ⟨S.Modest, ?_⟩).1
  have callee : S.Modest f := by
    unfold Setting.Modest
    rw [same, quiet]
    exact modest
  have values : ∀ v ∈ args, S.Modest v := fun v there => Value.isModest_of_isInert (inert v there)
  exact Run.agrees_reach S _ _ _ _ _ callee values fun _ there => absurd there List.not_mem_nil

end Hosts

end Engine

end EmbeddedPython
