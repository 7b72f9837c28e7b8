import EmbeddedPython.Proofs.Files.Joined

/-!
# The components of paths

What a path names is the list of its components.  Joining paths puts their components
one after the other (`Path.components_join`), and a path that names an entry has the
components of its parent directory and the name (`Path.components_parent_join`):
repeated slashes and idle segments make no difference to either.

A path begins with a leading `.` only at its start, so the components of what is put
behind another path are told without it (`Path.below`).
-/

namespace EmbeddedPython.Path

variable {p q : Path} {first last segment : Octets} {more : List Octets}

/-- The text of a component. -/
def Component.octets : Component → Octets
  | .root => [slash]
  | .current => [dot]
  | .above => [dot, dot]
  | .name octets => octets

/-! ## Components of segments -/

theorem component?_of_idle (idle : isIdle segment = true) : component? segment = none := by
  rw [component?, if_pos idle]

/-- What is not idle is a component: the directory above, or a name. -/
theorem component?_of_not_idle (busy : isIdle segment = false) :
    component? segment = some .above ∨ component? segment = some (.name segment) := by
  rw [component?, if_neg (by rw [busy]; exact Bool.false_ne_true)]
  split
  · exact .inl rfl
  · exact .inr rfl

theorem component?_ne_current (segment : Octets) : component? segment ≠ some .current := by
  cases idle : isIdle segment with
  | true => simp [component?_of_idle idle]
  | false => rcases component?_of_not_idle idle with h | h <;> simp [h]

theorem eq_of_component?_eq_name {name : Octets} (h : component? segment = some (.name name)) :
    segment = name := by
  cases idle : isIdle segment with
  | true => rw [component?_of_idle idle] at h; cases h
  | false =>
    rcases component?_of_not_idle idle with found | found <;> rw [found] at h <;> cases h
    rfl

theorem isIdle_iff : isIdle segment = true ↔ segment = [] ∨ segment = [dot] := by
  rw [isIdle, Bool.or_eq_true, List.isEmpty_iff, beq_iff_eq]

/-- A segment of three octets or more is a name. -/
theorem component?_of_long (long : 3 ≤ segment.length) :
    component? segment = some (.name segment) := by
  have other {short : Octets} (le : short.length ≤ 2) : segment ≠ short := by
    rintro rfl
    exact absurd (Nat.le_trans long le) (by decide)
  have busy : ¬isIdle segment = true := by
    rw [isIdle_iff, not_or]
    exact ⟨other (by decide), other (by decide)⟩
  rw [component?, if_neg busy, if_neg (other (by decide))]

theorem filterMap_of_idle {segments : List Octets} (idle : ∀ s ∈ segments, isIdle s = true) :
    segments.filterMap component? = [] :=
  List.filterMap_eq_nil_iff.2 fun s mem => component?_of_idle (idle s mem)

/-- A first segment that has something in it names the same, whether others follow or
not. -/
theorem firstComponent?_of_ne_nil (nonempty : first ≠ []) (alone : Bool) :
    firstComponent? first alone = firstComponent? first false := by
  have busy : ¬first.isEmpty = true := by simpa using nonempty
  unfold firstComponent?
  rw [if_neg busy, if_neg busy]

/-- A first segment that is a component elsewhere is the same one. -/
theorem firstComponent?_of_component? {c : Component} (h : component? segment = some c)
    (alone : Bool) : firstComponent? segment alone = some c := by
  have busy : isIdle segment = false := by
    rw [← Bool.not_eq_true]
    intro idle
    rw [component?_of_idle idle] at h
    cases h
  rw [isIdle, Bool.or_eq_false_iff, beq_eq_false_iff_ne] at busy
  unfold firstComponent?
  rw [busy.1, if_neg Bool.false_ne_true, if_neg busy.2, h]

/-- Only the segment of the empty path is none at the start of a path. -/
theorem firstComponent?_eq_none {alone : Bool} (h : firstComponent? first alone = none) :
    first = [] ∧ alone = true := by
  unfold firstComponent? at h
  split at h
  · next empty =>
    split at h
    · next one => exact ⟨List.isEmpty_iff.1 empty, one⟩
    · cases h
  · next nonempty =>
    split at h
    · cases h
    · next other =>
      have busy : isIdle first = false := by simp [isIdle, nonempty, other]
      rcases component?_of_not_idle busy with found | found <;> rw [found] at h <;> cases h

theorem component?_of_firstComponent?_eq_name {name : Octets} {alone : Bool}
    (h : firstComponent? segment alone = some (.name name)) :
    component? segment = some (.name name) := by
  unfold firstComponent? at h
  split at h
  · split at h <;> cases h
  · split at h
    · cases h
    · exact h

theorem exists_segments (p : Path) : ∃ first more, p.segments = first :: more :=
  List.exists_cons_of_ne_nil (splitAt_ne_nil slash p.octets)

theorem slash_not_mem_of_mem (cut : p.segments = first :: more) (mem : segment ∈ first :: more) :
    slash ∉ segment :=
  not_mem_of_mem_splitAt (cut ▸ mem : segment ∈ p.segments)

theorem components_of_segments (cut : p.segments = first :: more) :
    p.components = (firstComponent? first more.isEmpty).toList ++ more.filterMap component? := by
  unfold components
  rw [cut]

/-- A path is absolute if nothing is in front of its first slash. -/
theorem isAbsolute_iff (cut : p.segments = first :: more) :
    p.isAbsolute = true ↔ first = [] ∧ more ≠ [] := by
  unfold segments at cut
  unfold isAbsolute
  cases whole : p.octets with
  | nil =>
    rw [whole] at cut
    cases cut
    simp
  | cons b rest =>
    rw [whole] at cut
    by_cases same : b = slash
    · rw [same, splitAt_cons_self] at cut
      cases cut
      simp [same, splitAt_ne_nil]
    · obtain ⟨first', more', cut'⟩ :=
        List.exists_cons_of_ne_nil (splitAt_ne_nil slash rest)
      rw [splitAt_cons_of_ne same cut'] at cut
      cases cut
      simp [same]

theorem octets_eq_nil_iff (cut : p.segments = first :: more) :
    p.octets = [] ↔ first = [] ∧ more = [] := by
  constructor
  · intro empty
    rw [segments, empty] at cut
    cases cut
    exact ⟨rfl, rfl⟩
  · rintro ⟨rfl, rfl⟩
    rw [← joinWith_splitAt slash p.octets, ← segments, cut]
    rfl

/-- Only the empty path has no component. -/
theorem components_eq_nil_iff : p.components = [] ↔ p.octets = [] := by
  obtain ⟨first, more, cut⟩ := p.exists_segments
  rw [octets_eq_nil_iff cut, components_of_segments cut, List.append_eq_nil_iff]
  constructor
  · rintro ⟨none, -⟩
    obtain ⟨empty, alone⟩ := firstComponent?_eq_none (Option.toList_eq_nil_iff.1 none)
    exact ⟨empty, List.isEmpty_iff.1 alone⟩
  · rintro ⟨rfl, rfl⟩
    exact ⟨rfl, rfl⟩

/-! ## Joined paths -/

/-- The components of a path but for the directory itself, which is one at the start
only. -/
def below (q : Path) : List Component :=
  q.components.filter (· ≠ .current)

/-- The segments behind the first one do not name the directory itself. -/
theorem filter_filterMap_component? (segments : List Octets) :
    (segments.filterMap component?).filter (· ≠ .current) = segments.filterMap component? := by
  refine List.filter_eq_self.2 fun c mem => ?_
  obtain ⟨s, -, found⟩ := List.mem_filterMap.1 mem
  refine decide_eq_true fun same => component?_ne_current s ?_
  rw [found, same]

/-- An absolute path starts at the root, and not in a directory. -/
theorem below_of_absolute (absolute : q.isAbsolute = true) : q.below = q.components := by
  obtain ⟨first, more, cut⟩ := q.exists_segments
  obtain ⟨rfl, several⟩ := (isAbsolute_iff cut).1 absolute
  have root : firstComponent? [] more.isEmpty = some .root := by
    cases more with
    | nil => exact absurd rfl several
    | cons next rest => rfl
  rw [below, components_of_segments cut, root, List.filter_append, filter_filterMap_component?]
  rfl

/-- A relative path has the components of its segments. -/
theorem below_of_relative (relative : q.isAbsolute = false) :
    q.below = q.segments.filterMap component? := by
  obtain ⟨first, more, cut⟩ := q.exists_segments
  have start : (firstComponent? first more.isEmpty).toList.filter (· ≠ .current) =
      (component? first).toList := by
    unfold firstComponent?
    by_cases empty : first = []
    · have alone : more = [] := by
        refine Decidable.byContradiction fun several => ?_
        rw [(isAbsolute_iff cut).2 ⟨empty, several⟩] at relative
        cases relative
      rw [empty, alone]
      rfl
    · have busy : ¬first.isEmpty = true := by simpa using empty
      rw [if_neg busy]
      split
      · next same => rw [same]; rfl
      · cases found : component? first with
        | none => rfl
        | some c =>
          have other : c ≠ .current := fun same => component?_ne_current first (same ▸ found)
          simp [other]
  rw [below, components_of_segments cut, List.filter_append, filter_filterMap_component?,
    start, cut]
  cases found : component? first with
  | none => rw [List.filterMap_cons_none found]; rfl
  | some c => rw [List.filterMap_cons_some found]; rfl

theorem join_nil (q : Path) : (⟨[]⟩ : Path) / q = q := by
  show join ⟨[]⟩ q = q
  unfold join
  split
  · rfl
  · rfl

theorem join_of_absolute (p : Path) (absolute : q.isAbsolute = true) : p / q = q := by
  show join p q = q
  rw [join, if_pos absolute]

/-- The segments of a relative path behind another one come behind all segments of that
one that name anything. -/
theorem segments_join (nonempty : p.octets ≠ []) (relative : q.isAbsolute = false) :
    ∃ first more, (p / q).segments = first :: more ++ q.segments ∧
      (p.segments = first :: more ∨ p.segments = first :: more ++ [[]]) := by
  rcases FileSystem.octets_join nonempty relative with ⟨front, whole, joined⟩ | joined
  · obtain ⟨first, more, cut⟩ := List.exists_cons_of_ne_nil (splitAt_ne_nil slash front)
    refine ⟨first, more, ?_, .inr ?_⟩
    · rw [segments, joined, splitAt_append_separator, cut]
      rfl
    · rw [segments, whole, splitAt_append_separator, cut]
      rfl
  · obtain ⟨first, more, cut⟩ := p.exists_segments
    refine ⟨first, more, ?_, .inl cut⟩
    rw [segments, joined, splitAt_append_separator]
    exact congrArg (· ++ q.segments) cut

/-- The components of a relative path behind another one come behind those of that
one. -/
theorem components_join (nonempty : p.octets ≠ []) (relative : q.isAbsolute = false) :
    (p / q).components = p.components ++ q.below := by
  obtain ⟨first, more, joined, cut⟩ := segments_join nonempty relative
  rw [List.cons_append] at joined
  have several : (more ++ q.segments).isEmpty = false := by
    obtain ⟨first', more', cut'⟩ := q.exists_segments
    rw [cut']
    cases more <;> rfl
  rw [components_of_segments joined, several, List.filterMap_append, ← List.append_assoc,
    below_of_relative relative]
  refine congrArg (· ++ _) ?_
  rcases cut with cut | cut
  · rw [components_of_segments cut]
    by_cases empty : first = []
    · have others : more ≠ [] := fun none => nonempty ((octets_eq_nil_iff cut).2 ⟨empty, none⟩)
      cases more with
      | nil => exact absurd rfl others
      | cons next rest => rfl
    · rw [firstComponent?_of_ne_nil empty more.isEmpty]
  · have slashed : (more ++ [[]]).isEmpty = false := by cases more <;> rfl
    rw [List.cons_append] at cut
    rw [components_of_segments cut, slashed, List.filterMap_append]
    simp [component?, isIdle]

/-- The last segment of a path that is put behind another one stays the last one. -/
theorem exists_segments_join (p q : Path) : ∃ front, (p / q).segments = front ++ q.segments := by
  cases absolute : q.isAbsolute with
  | true => exact ⟨[], by rw [join_of_absolute p absolute]; rfl⟩
  | false =>
    by_cases empty : p.octets = []
    · obtain rfl : p = ⟨[]⟩ := congrArg Path.mk empty
      exact ⟨[], by rw [join_nil]; rfl⟩
    · obtain ⟨first, more, joined, -⟩ := segments_join empty absolute
      exact ⟨first :: more, joined⟩

/-! ## Parent directories -/

theorem fileName?_eq_some_iff {name : Octets} :
    p.fileName? = some name ↔ p.components.getLast? = some (.name name) := by
  unfold fileName?
  cases p.components.getLast? with
  | none => simp
  | some c => cases c <;> simp

/-- The last segment is the file name unless it is idle or the directory above. -/
theorem fileName?_of_segments {front : List Octets} (cut : p.segments = front ++ [last])
    (busy : component? last = some (.name last)) : p.fileName? = some last := by
  rw [fileName?_eq_some_iff]
  cases front with
  | nil =>
    rw [components_of_segments cut, firstComponent?_of_component? busy]
    rfl
  | cons first more =>
    rw [List.cons_append] at cut
    rw [components_of_segments cut, List.filterMap_append, ← List.append_assoc,
      List.filterMap_cons_some busy]
    exact List.getLast?_concat

/-- Segments without the idle ones at the end, of which none but the last is looked
at. -/
def trimmed (segments : List Octets) : List Octets :=
  (segments.reverse.dropWhile isIdle).reverse

theorem trimmed_cases (segments : List Octets) :
    ((∀ s ∈ segments, isIdle s = true) ∧ trimmed segments = []) ∨
      ∃ front last idle, segments = front ++ last :: idle ∧ isIdle last = false ∧
        (∀ s ∈ idle, isIdle s = true) ∧ trimmed segments = front ++ [last] := by
  have split : segments.reverse.takeWhile isIdle ++ segments.reverse.dropWhile isIdle =
      segments.reverse := List.takeWhile_append_dropWhile
  have idle : ∀ s ∈ segments.reverse.takeWhile isIdle, isIdle s = true :=
    List.all_eq_true.1 List.all_takeWhile
  unfold trimmed
  cases rest : segments.reverse.dropWhile isIdle with
  | nil =>
    refine .inl ⟨fun s mem => ?_, rfl⟩
    rw [rest, List.append_nil] at split
    refine idle s ?_
    rw [split]
    exact List.mem_reverse.2 mem
  | cons last front =>
    have busy : isIdle last = false := by
      have head := List.head?_dropWhile_not isIdle segments.reverse
      rw [rest] at head
      exact head
    refine .inr ⟨front.reverse, last, (segments.reverse.takeWhile isIdle).reverse, ?_, busy,
      fun s mem => idle s (List.mem_reverse.1 mem), by rw [List.reverse_cons]⟩
    rw [rest] at split
    have whole := congrArg List.reverse split
    rw [List.reverse_reverse, List.reverse_append, List.reverse_cons, List.append_assoc] at whole
    exact whole.symm

/-- Idle segments name nothing. -/
theorem filterMap_trimmed (segments : List Octets) :
    (trimmed segments).filterMap component? = segments.filterMap component? := by
  rcases trimmed_cases segments with ⟨idle, empty⟩ | ⟨front, last, idle, whole, -, quiet, kept⟩
  · rw [empty, filterMap_of_idle idle]
    rfl
  · have all : segments.filterMap component? = (front ++ [last]).filterMap component? := by
      rw [whole, List.append_cons, List.filterMap_append, filterMap_of_idle quiet, List.append_nil]
    rw [kept, all]

theorem mem_of_mem_trimmed {segments : List Octets} (mem : segment ∈ trimmed segments) :
    segment ∈ segments := by
  rw [trimmed, List.mem_reverse] at mem
  exact List.mem_reverse.1 ((List.dropWhile_sublist isIdle).subset mem)

/-- The components of segments that are put together, the first of which stands for the
root when it is empty. -/
theorem components_ofSegments {front : List Octets} (plain : ∀ s ∈ first :: front, slash ∉ s) :
    (ofSegments first.isEmpty (first :: front)).components =
      (firstComponent? first false).toList ++ front.filterMap component? := by
  have cut : segments ⟨joinWith slash (first :: front)⟩ = first :: front :=
    splitAt_joinWith (List.cons_ne_nil _ _) plain
  unfold ofSegments
  by_cases empty : first = []
  · subst empty
    cases front with
    | nil => rfl
    | cons next rest =>
      rw [if_neg (by simp), components_of_segments cut]
      rfl
  · have busy : first.isEmpty = false := by simpa using empty
    rw [busy, Bool.false_and, if_neg Bool.false_ne_true, components_of_segments cut,
      firstComponent?_of_ne_nil empty front.isEmpty]

/-- A segment is a relative path of its own. -/
theorem isAbsolute_segment (plain : slash ∉ segment) : (⟨segment⟩ : Path).isAbsolute = false := by
  have cut : segments ⟨segment⟩ = [segment] := splitAt_of_not_mem plain
  rw [← Bool.not_eq_true, isAbsolute_iff cut]
  simp

/-- A name alone is a path to the entry of that name. -/
theorem components_of_name {name : Octets} (plain : slash ∉ name)
    (busy : component? name = some (.name name)) : (⟨name⟩ : Path).isAbsolute = false ∧
      (⟨name⟩ : Path).components = [.name name] ∧ (⟨name⟩ : Path).below = [.name name] := by
  have cut : segments ⟨name⟩ = [name] := splitAt_of_not_mem plain
  have relative := isAbsolute_segment plain
  refine ⟨relative, ?_, ?_⟩
  · rw [components_of_segments cut, firstComponent?_of_component? busy]
    rfl
  · rw [below_of_relative relative, cut, List.filterMap_cons_some busy]
    rfl

/-- The name of an entry is the last segment that is not idle. -/
theorem segments_of_fileName? {name : Octets} (named : p.fileName? = some name)
    (cut : p.segments = first :: more) : component? name = some (.name name) ∧
      ((first = name ∧ trimmed more = []) ∨ ∃ front, trimmed more = front ++ [name]) := by
  rw [fileName?_eq_some_iff, components_of_segments cut] at named
  rcases trimmed_cases more with ⟨idle, empty⟩ | ⟨front, last, -, -, busy, -, kept⟩
  · rw [filterMap_of_idle idle, List.append_nil] at named
    cases found : firstComponent? first more.isEmpty with
    | none => rw [found] at named; cases named
    | some c =>
      rw [found] at named
      obtain rfl : c = .name name := Option.some.inj named
      have alike := component?_of_firstComponent?_eq_name found
      obtain rfl := eq_of_component?_eq_name alike
      exact ⟨alike, .inl ⟨rfl, empty⟩⟩
  · rw [← filterMap_trimmed, kept, List.filterMap_append, ← List.append_assoc] at named
    rcases component?_of_not_idle busy with found | found
    · rw [List.filterMap_cons_some found] at named
      simp at named
    · rw [List.filterMap_cons_some found] at named
      obtain rfl : last = name := by simpa using named
      exact ⟨found, .inr ⟨front, kept⟩⟩

/-- The directory of an entry has the components in front of the name. -/
theorem components_parent {name : Octets} (named : p.fileName? = some name) :
    ∃ directory, p.parent? = some directory ∧
      p.components = directory.components ++ [.name name] := by
  obtain ⟨first, more, cut⟩ := p.exists_segments
  have parent : p.parent? = some
      (ofSegments p.isAbsolute (dropIdleEnd (dropIdleEnd p.segments).dropLast)) := by
    rw [parent?, fileName?_eq_some_iff.1 named]
  have trimmedEnd (segments : List Octets) :
      dropIdleEnd (first :: segments) = first :: trimmed segments := rfl
  rw [cut, trimmedEnd] at parent
  refine ⟨_, parent, ?_⟩
  rw [components_of_segments cut, ← filterMap_trimmed more]
  obtain ⟨busy, ⟨rfl, empty⟩ | ⟨front, kept⟩⟩ := segments_of_fileName? named cut
  · -- the name is the first segment, and the directory is the empty path
    have relative : p.isAbsolute = false := by
      rw [← Bool.not_eq_true, isAbsolute_iff cut]
      rintro ⟨rfl, -⟩
      cases busy
    rw [empty, relative, firstComponent?_of_component? busy]
    rfl
  · obtain ⟨next, rest, rfl⟩ : ∃ next rest, more = next :: rest := by
      cases more with
      | nil => exact absurd kept.symm (by simp [trimmed])
      | cons next rest => exact ⟨next, rest, rfl⟩
    have absolute : p.isAbsolute = first.isEmpty := by
      rw [Bool.eq_iff_iff, isAbsolute_iff cut, List.isEmpty_iff]
      exact and_iff_left (List.cons_ne_nil _ _)
    have plain : ∀ s ∈ first :: trimmed front, slash ∉ s := by
      intro s mem
      refine slash_not_mem_of_mem cut ?_
      rcases List.mem_cons.1 mem with rfl | mem
      · exact List.mem_cons_self
      · have inside : s ∈ trimmed (next :: rest) :=
          kept ▸ List.mem_append_left _ (mem_of_mem_trimmed mem)
        exact List.mem_cons_of_mem _ (mem_of_mem_trimmed inside)
    rw [kept, ← List.cons_append, List.dropLast_concat, trimmedEnd, absolute,
      components_ofSegments plain, filterMap_trimmed, List.filterMap_append,
      List.filterMap_cons_some busy, List.append_assoc]
    rfl

theorem slash_not_mem_fileName? {name : Octets} (named : p.fileName? = some name) :
    slash ∉ name ∧ component? name = some (.name name) := by
  obtain ⟨first, more, cut⟩ := p.exists_segments
  obtain ⟨busy, found⟩ := segments_of_fileName? named cut
  refine ⟨slash_not_mem_of_mem cut ?_, busy⟩
  rcases found with ⟨rfl, -⟩ | ⟨front, kept⟩
  · exact List.mem_cons_self
  · exact List.mem_cons_of_mem _
      (mem_of_mem_trimmed (kept ▸ List.mem_append_right _ List.mem_cons_self))

/-- A name leads to one more component behind any path. -/
theorem components_join_name (p : Path) {name : Octets} (plain : slash ∉ name)
    (busy : component? name = some (.name name)) :
    (p / (⟨name⟩ : Path)).components = p.components ++ [.name name] := by
  obtain ⟨relative, alone, behind⟩ := components_of_name plain busy
  by_cases empty : p.octets = []
  · obtain rfl : p = ⟨[]⟩ := congrArg Path.mk empty
    rw [join_nil, alone]
    rfl
  · rw [components_join empty relative, behind]

/-- A path that names an entry has the components of its parent directory and the name
behind it. -/
theorem components_parent_join {name : Octets} (named : p.fileName? = some name) :
    (p.parent?.getD ⟨[]⟩ / (⟨name⟩ : Path)).components = p.components := by
  obtain ⟨directory, parent, whole⟩ := components_parent named
  obtain ⟨plain, busy⟩ := slash_not_mem_fileName? named
  rw [parent, whole, Option.getD_some, components_join_name directory plain busy]

end EmbeddedPython.Path
