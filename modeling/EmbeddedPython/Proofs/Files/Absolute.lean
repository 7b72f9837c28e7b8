import EmbeddedPython.Executable
import EmbeddedPython.Proofs.Files.Components

/-!
# Relative paths that are made absolute

`Machine.absolute` puts the working directory in front of a relative path and leaves
its idle segments out.  That is another way to write the same path
(`Machine.find_absolute_eq_ok`): it leads to the same node, as long as the working
directory is there (`FileSystem.Stands`), neither way is too long and the path ends in
the name of an entry.
-/

namespace EmbeddedPython

namespace Path

variable {p : Path} {segment : Octets} {c : Component}

/-! ## Components and segments -/

theorem exists_component?_of_not_idle (busy : isIdle segment = false) :
    ∃ c, component? segment = some c := by
  rcases component?_of_not_idle busy with found | found <;> exact ⟨_, found⟩

theorem octets_of_component? (found : component? segment = some c) : c.octets = segment := by
  unfold component? at found
  split at found
  · cases found
  · split at found
    · next above =>
      obtain rfl := Option.some.inj found
      exact above.symm
    · obtain rfl := Option.some.inj found
      rfl

/-- Only the first component of a path may be the directory itself. -/
theorem dropWhile_current (p : Path) : p.components.dropWhile (· == .current) = p.below := by
  obtain ⟨first, more, cut⟩ := p.exists_segments
  have later := filter_filterMap_component? more
  have kept : (more.filterMap component?).dropWhile (· == .current) = more.filterMap component? := by
    cases rest : more.filterMap component? with
    | nil => rfl
    | cons c cs =>
      rw [rest, List.filter_eq_self] at later
      have other : c ≠ .current := of_decide_eq_true (later c List.mem_cons_self)
      exact List.dropWhile_cons_of_neg (by simpa using other)
  rw [below, components_of_segments cut, List.filter_append, later]
  cases firstComponent? first more.isEmpty with
  | none => exact kept
  | some c =>
    by_cases same : c = .current
    · subst same
      exact kept
    · rw [Option.toList_some, List.singleton_append,
        List.dropWhile_cons_of_neg (by simpa using same)]
      simp [same]

theorem slash_not_mem_segments (p : Path) : ∀ s ∈ p.segments, slash ∉ s :=
  fun _ mem => not_mem_of_mem_splitAt mem

/-! ## Pushed components -/

/-- A component that a segment names is put behind a path as that segment. -/
theorem pushComponents_cons (p : Path) (cs : List Component)
    (found : component? segment = some c) :
    p.pushComponents (c :: cs) = (p / (⟨segment⟩ : Path)).pushComponents cs := by
  obtain rfl := octets_of_component? found
  cases c with
  | root => exact absurd found (by decide)
  | current => exact absurd found (component?_ne_current _)
  | above => rfl
  | name octets => rfl

theorem octets_join_ne_nil (nonempty : p.octets ≠ []) {q : Path}
    (relative : q.isAbsolute = false) : (p / q).octets ≠ [] := by
  obtain ⟨rest, joined⟩ := FileSystem.exists_octets_join nonempty relative
  rw [joined]
  exact fun none => nonempty (List.append_eq_nil_iff.1 none).1

/-- The segments of a path, but for the idle ones, can be put behind another path. -/
theorem isAbsolute_pushComponents (nonempty : p.octets ≠ []) {segments : List Octets}
    (plain : ∀ s ∈ segments, slash ∉ s) :
    (p.pushComponents (segments.filterMap component?)).octets ≠ [] ∧
      (p.pushComponents (segments.filterMap component?)).isAbsolute = p.isAbsolute := by
  induction segments generalizing p with
  | nil => exact ⟨nonempty, rfl⟩
  | cons s rest ih =>
    obtain ⟨here, others⟩ := List.forall_mem_cons.1 plain
    cases found : component? s with
    | none =>
      rw [List.filterMap_cons_none found]
      exact ih nonempty others
    | some c =>
      have relative := isAbsolute_segment here
      rw [List.filterMap_cons_some found, pushComponents_cons p _ found,
        ← FileSystem.isAbsolute_join nonempty relative]
      exact ih (octets_join_ne_nil nonempty relative) others

theorem mem_pushComponents_iff {b : UInt8} (other : b ≠ slash) {segments : List Octets}
    (plain : ∀ s ∈ segments, slash ∉ s) :
    b ∈ (p.pushComponents (segments.filterMap component?)).octets ↔
      b ∈ p.octets ∨ ∃ s ∈ segments.filter (!isIdle ·), b ∈ s := by
  induction segments generalizing p with
  | nil => simp [pushComponents]
  | cons s rest ih =>
    obtain ⟨here, others⟩ := List.forall_mem_cons.1 plain
    cases idle : isIdle s with
    | true =>
      rw [List.filterMap_cons_none (component?_of_idle idle), ih others,
        List.filter_cons_of_neg (by simp [idle])]
    | false =>
      obtain ⟨c, found⟩ := exists_component?_of_not_idle idle
      have joined : b ∈ (p / (⟨s⟩ : Path)).octets ↔ b ∈ p.octets ∨ b ∈ s :=
        mem_join_iff other p (isAbsolute_segment here)
      rw [List.filterMap_cons_some found, pushComponents_cons p _ found, ih others, joined,
        List.filter_cons_of_pos (by simp [idle])]
      simp only [List.mem_cons, or_and_right, exists_or, exists_eq_left, or_assoc]

end Path

namespace FileSystem

open EmbeddedPython.Path

variable {fs : FileSystem} {p : Path} {start at_ x : Location} {segments : List Octets}

/-! ## Where pushed components lead -/

/-- An idle segment stays in the directory that it starts from. -/
theorem follow_cons_of_idle {s : Octets} (idle : isIdle s = true) :
    fs.follow start (s :: segments) = .ok x ↔
      fs.node? start = some .directory ∧ fs.follow start segments = .ok x := by
  have there : enter start s = start := if_pos idle
  have short : ¬longestName < s.length := by
    rcases isIdle_iff.1 idle with rfl | rfl <;> decide
  have step (directory : fs.node? start = some .directory) :
      fs.follow start (s :: segments) = fs.follow start segments := by
    rw [follow, directory]
    dsimp only
    rw [if_neg short, there]
  constructor
  · intro leads
    have directory := directory_of_follow leads
    exact ⟨directory, step directory ▸ leads⟩
  · rintro ⟨directory, leads⟩
    exact (step directory).trans leads

theorem directory_of_follow_concat {last : Octets}
    (leads : fs.follow start (segments ++ [last]) = .ok x) : fs.node? start = some .directory := by
  cases segments with
  | nil => exact directory_of_follow leads
  | cons s rest => exact directory_of_follow leads

/-- Idle segments make no difference in front of one that is not. -/
theorem follow_filter_idle {last : Octets} (busy : isIdle last = false) :
    fs.follow start ((segments ++ [last]).filter (!isIdle ·)) = .ok x ↔
      fs.follow start (segments ++ [last]) = .ok x := by
  have kept : [last].filter (!isIdle ·) = [last] := by simp [busy]
  rw [List.filter_append, kept]
  induction segments generalizing start with
  | nil => rfl
  | cons s rest ih =>
    cases idle : isIdle s with
    | true =>
      rw [List.filter_cons_of_neg (by simp [idle]), List.cons_append, follow_cons_of_idle idle]
      exact ih.trans ⟨fun leads => ⟨directory_of_follow_concat leads, leads⟩, And.right⟩
    | false =>
      rw [List.filter_cons_of_pos (by simp [idle]), List.cons_append, List.cons_append, follow,
        follow]
      split
      · rfl
      · rfl
      · split
        · rfl
        · exact ih

theorem follow_pushComponents (nonempty : p.octets ≠ []) (plain : ∀ s ∈ segments, slash ∉ s) :
    fs.follow start (p.pushComponents (segments.filterMap component?)).segments = .ok x ↔
      ∃ at_, fs.follow start p.segments = .ok at_ ∧
        fs.follow at_ (segments.filter (!isIdle ·)) = .ok x := by
  induction segments generalizing p with
  | nil => simp [pushComponents, follow]
  | cons s rest ih =>
    obtain ⟨here, others⟩ := List.forall_mem_cons.1 plain
    cases idle : isIdle s with
    | true =>
      rw [List.filterMap_cons_none (component?_of_idle idle), ih nonempty others,
        List.filter_cons_of_neg (by simp [idle])]
    | false =>
      obtain ⟨c, found⟩ := exists_component?_of_not_idle idle
      have relative := isAbsolute_segment here
      have alone : (⟨s⟩ : Path).segments = [s] := splitAt_of_not_mem here
      rw [List.filterMap_cons_some found, pushComponents_cons p _ found,
        ih (octets_join_ne_nil nonempty relative) others,
        List.filter_cons_of_pos (by simp [idle])]
      simp only [follow_join nonempty relative, alone]
      constructor
      · rintro ⟨at_, ⟨b, first, step⟩, leads⟩
        exact ⟨b, first, follow_append_eq_ok.2 ⟨at_, step, leads⟩⟩
      · rintro ⟨b, first, leads⟩
        obtain ⟨at_, step, leads⟩ := follow_append_eq_ok.1
          (show fs.follow b ([s] ++ rest.filter (!isIdle ·)) = .ok x from leads)
        exact ⟨at_, ⟨b, first, step⟩, leads⟩

/-! ## The working directory -/

/-- The working directory is there, and its names can be written in a path. -/
structure Stands (fs : FileSystem) : Prop where
  names : ∀ name ∈ fs.current, slash ∉ name ∧ 0 ∉ name
  leads : fs.follow [] fs.current = .ok fs.current

theorem mem_joinWith_iff {separator b : UInt8} (other : b ≠ separator) {stretches : List Octets} :
    b ∈ joinWith separator stretches ↔ ∃ s ∈ stretches, b ∈ s := by
  induction stretches with
  | nil => simp [joinWith]
  | cons first more ih =>
    cases more with
    | nil => simp [joinWith]
    | cons next rest =>
      show b ∈ first ++ separator :: joinWith separator (next :: rest) ↔ _
      rw [List.mem_append, List.mem_cons, or_iff_right other, ih]
      simp only [List.mem_cons, or_and_right, exists_or, exists_eq_left]

theorem mem_octets_iff {b : UInt8} (other : b ≠ slash) :
    b ∈ p.octets ↔ ∃ s ∈ p.segments, b ∈ s := by
  rw [← mem_joinWith_iff other, Path.segments, joinWith_splitAt]

theorem workingDirectory_ne_nil (fs : FileSystem) : fs.workingDirectory.octets ≠ [] :=
  List.cons_ne_nil _ _

theorem Stands.zero_not_mem_workingDirectory (stands : fs.Stands) :
    0 ∉ fs.workingDirectory.octets := by
  rw [workingDirectory, List.mem_cons, not_or, mem_joinWith_iff (by decide)]
  exact ⟨by decide, fun ⟨name, mem, zero⟩ => (stands.names name mem).2 zero⟩

/-- The path of the working directory leads there. -/
theorem Stands.follow_workingDirectory (stands : fs.Stands) :
    fs.follow [] fs.workingDirectory.segments = .ok at_ ↔ at_ = fs.current := by
  have root : fs.node? [] = some .directory := rfl
  have step (segments : List Octets) : fs.follow [] ([] :: segments) = fs.follow [] segments := by
    rw [follow, root]
    rfl
  have whole : fs.follow [] fs.workingDirectory.segments = .ok fs.current := by
    rw [Path.segments, workingDirectory, splitAt_cons_self, step]
    by_cases top : fs.current = []
    · rw [top]
      rfl
    · rw [splitAt_joinWith top fun name mem => (stands.names name mem).1]
      exact stands.leads
  rw [whole]
  exact ⟨fun same => (Except.ok.inj same).symm, fun same => congrArg Except.ok same.symm⟩

end FileSystem

namespace Machine

open EmbeddedPython.Path FileSystem

variable {m : Machine} {p : Path} {x : Location}

theorem absolute_of_absolute (absolute : p.isAbsolute = true) : m.absolute p = p := if_pos absolute

theorem absolute_of_relative (relative : p.isAbsolute = false) :
    m.absolute p = m.files.workingDirectory.pushComponents (p.segments.filterMap component?) := by
  rw [Machine.absolute, relative, if_neg Bool.false_ne_true, dropWhile_current,
    below_of_relative relative]

theorem isAbsolute_absolute (m : Machine) (p : Path) : (m.absolute p).isAbsolute = true := by
  cases relative : p.isAbsolute with
  | true => rwa [absolute_of_absolute relative]
  | false =>
    rw [absolute_of_relative relative,
      (isAbsolute_pushComponents m.files.workingDirectory_ne_nil p.slash_not_mem_segments).2]
    rfl

theorem zero_mem_absolute_iff (stands : m.files.Stands) (relative : p.isAbsolute = false) :
    0 ∈ (m.absolute p).octets ↔ 0 ∈ p.octets := by
  rw [absolute_of_relative relative, mem_pushComponents_iff (by decide) p.slash_not_mem_segments,
    or_iff_right stands.zero_not_mem_workingDirectory, mem_octets_iff (by decide)]
  constructor
  · rintro ⟨s, mem, zero⟩
    exact ⟨s, (List.mem_filter.1 mem).1, zero⟩
  · rintro ⟨s, mem, zero⟩
    have busy : isIdle s = false := by
      rw [← Bool.not_eq_true, isIdle_iff]
      rintro (rfl | rfl)
      · cases zero
      · exact absurd (List.mem_singleton.1 zero) (by decide)
    exact ⟨s, List.mem_filter.2 ⟨mem, by rw [busy]; rfl⟩, zero⟩

/-- An absolute path and the relative one that it was made of can both be used. -/
theorem isUsable_absolute (stands : m.files.Stands) (relative : p.isAbsolute = false)
    (nonempty : p.octets ≠ []) (short : p.octets.length < longestPath)
    (shortAbsolute : (m.absolute p).octets.length < longestPath) :
    IsUsable (m.absolute p) ↔ IsUsable p := by
  have pushed : (m.absolute p).octets ≠ [] := by
    rw [absolute_of_relative relative]
    exact (isAbsolute_pushComponents m.files.workingDirectory_ne_nil p.slash_not_mem_segments).1
  unfold IsUsable
  rw [zero_mem_absolute_iff stands relative]
  exact and_congr_right fun _ => iff_of_true ⟨pushed, shortAbsolute⟩ ⟨nonempty, short⟩

/-- A path leads to the same place when it is made absolute. -/
theorem locate_absolute_eq_ok {front : List Octets} {last : Octets} (stands : m.files.Stands)
    (cut : p.segments = front ++ [last]) (busy : isIdle last = false)
    (short : p.octets.length < longestPath)
    (shortAbsolute : (m.absolute p).octets.length < longestPath) :
    m.files.locate (m.absolute p) = .ok x ↔ m.files.locate p = .ok x := by
  cases relative : p.isAbsolute with
  | true => rw [absolute_of_absolute relative]
  | false =>
    have nonempty : p.octets ≠ [] := by
      intro empty
      rw [Path.segments, empty] at cut
      obtain ⟨rfl, rfl⟩ : front = [] ∧ last = [] := by
        cases front with
        | nil => exact ⟨rfl, (List.cons.inj cut).1.symm⟩
        | cons f fs => simp [splitAt] at cut
      cases busy
    rw [locate_eq_ok, locate_eq_ok, isUsable_absolute stands relative nonempty short shortAbsolute,
      isAbsolute_absolute, relative, if_pos rfl, if_neg Bool.false_ne_true,
      absolute_of_relative relative,
      follow_pushComponents m.files.workingDirectory_ne_nil p.slash_not_mem_segments, cut]
    simp only [stands.follow_workingDirectory, exists_eq_left, follow_filter_idle busy]

/-- A path leads to the same node when it is made absolute. -/
theorem find_absolute_eq_ok {front : List Octets} {last : Octets} (stands : m.files.Stands)
    (cut : p.segments = front ++ [last]) (busy : isIdle last = false)
    (short : p.octets.length < longestPath)
    (shortAbsolute : (m.absolute p).octets.length < longestPath) {node : Node} :
    m.files.find (m.absolute p) = .ok node ↔ m.files.find p = .ok node := by
  have found (q : Path) : m.files.find q = .ok node ↔
      ∃ x, m.files.locate q = .ok x ∧ m.files.node? x = some node := by
    rw [find_eq]
    cases m.files.locate q with
    | error fault => simp
    | ok x => cases there : m.files.node? x <;> simp [there]
  rw [found, found]
  simp only [locate_absolute_eq_ok stands cut busy short shortAbsolute]

end Machine

end EmbeddedPython
