import EmbeddedPython.Proofs.Files.Cuts
import EmbeddedPython.Proofs.Files.Records

/-!
# Paths behind other paths

A relative path behind another path leads on from where that one leads
(`FileSystem.locate_join`), so it is the same place if the path in front leads to the
same directory.
-/

namespace EmbeddedPython

namespace Path

/-- A cut at a separator in the middle. -/
theorem splitAt_append_separator {separator : UInt8} (front back : Octets) :
    splitAt separator (front ++ separator :: back) =
      splitAt separator front ++ splitAt separator back := by
  induction front with
  | nil => exact splitAt_cons_self back
  | cons b front ih =>
    cases cut : splitAt separator front with
    | nil => exact absurd cut (splitAt_ne_nil separator front)
    | cons first more =>
      rw [cut] at ih
      by_cases same : b = separator
      · subst same
        rw [List.cons_append, splitAt_cons_self, splitAt_cons_self, ih, cut]
        rfl
      · rw [List.cons_append, splitAt_cons_of_ne same ih, splitAt_cons_of_ne same cut]
        rfl

/-- Joining adds a slash and nothing else. -/
theorem mem_join_iff {b : UInt8} (hb : b ≠ slash) (p : Path) {q : Path}
    (relative : q.isAbsolute = false) :
    b ∈ (p.join q).octets ↔ b ∈ p.octets ∨ b ∈ q.octets := by
  unfold join
  rw [relative]
  split
  · next h => cases h
  · split <;> simp [hb]

end Path

namespace FileSystem

variable {fs f g : FileSystem} {p q : Path} {start at_ x : Location}

/-- Segments behind other ones are followed from where those lead. -/
theorem follow_append (fs : FileSystem) (start : Location) (front back : List Octets) :
    fs.follow start (front ++ back) =
      match fs.follow start front with
      | .error fault => .error fault
      | .ok at_ => fs.follow at_ back := by
  induction front generalizing start with
  | nil => rfl
  | cons segment rest ih =>
    rw [List.cons_append, follow, follow]
    cases fs.node? start with
    | none => rfl
    | some node =>
      cases node with
      | file a => rfl
      | directory =>
        dsimp only
        split
        · rfl
        · exact ih _

theorem follow_append_eq_ok {front back : List Octets} :
    fs.follow start (front ++ back) = .ok x ↔
      ∃ at_, fs.follow start front = .ok at_ ∧ fs.follow at_ back = .ok x := by
  rw [follow_append]
  cases fs.follow start front with
  | error fault => simp
  | ok at_ => simp

/-- Whatever is followed on from a location, a directory is there. -/
theorem directory_of_follow {segment : Octets} {rest : List Octets}
    (h : fs.follow at_ (segment :: rest) = .ok x) : fs.node? at_ = some .directory := by
  unfold follow at h
  split at h
  · cases h
  · cases h
  · assumption

theorem directory_of_segments (h : fs.follow at_ q.segments = .ok x) :
    fs.node? at_ = some .directory := by
  cases cut : q.segments with
  | nil => exact absurd cut (Path.splitAt_ne_nil _ _)
  | cons segment rest =>
    rw [cut] at h
    exact directory_of_follow h

/-- An empty segment leads nowhere else. -/
theorem follow_empty : fs.follow at_ [[]] = .ok x ↔ fs.node? at_ = some .directory ∧ at_ = x := by
  constructor
  · intro h
    refine ⟨directory_of_follow h, ?_⟩
    rw [follow, directory_of_follow h] at h
    exact Except.ok.inj h
  · rintro ⟨directory, rfl⟩
    rw [follow, directory]
    rfl

/-- What the octets of a path have to be for it to lead anywhere. -/
def IsUsable (p : Path) : Prop :=
  0 ∉ p.octets ∧ p.octets ≠ [] ∧ p.octets.length < longestPath

theorem locate_eq_ok :
    fs.locate p = .ok x ↔
      IsUsable p ∧ fs.follow (if p.isAbsolute then [] else fs.current) p.segments = .ok x := by
  unfold locate IsUsable
  split
  · next zero => simp [List.contains_iff_mem.1 zero]
  · next whole =>
    rw [List.contains_iff_mem] at whole
    split
    · next empty => simp [List.isEmpty_iff.1 empty]
    · next nonempty =>
      rw [List.isEmpty_iff] at nonempty
      split
      · next long => simp [Nat.not_lt.2 long]
      · next short => simp [whole, nonempty, Nat.lt_of_not_le short]

/-! ## Other working directories -/

/-- The files from another working directory. -/
def seenFrom (fs : FileSystem) (at_ : Location) : FileSystem := { fs with current := at_ }

theorem follow_seenFrom (fs : FileSystem) (at_ start : Location) (segments : List Octets) :
    (fs.seenFrom at_).follow start segments = fs.follow start segments := by
  induction segments generalizing start with
  | nil => rfl
  | cons segment rest ih =>
    unfold follow
    rw [show (fs.seenFrom at_).node? start = fs.node? start from rfl]
    simp only [ih]

/-- An absolute path leads to the same place from everywhere. -/
theorem locate_seenFrom_of_absolute (absolute : p.isAbsolute = true) (fs : FileSystem)
    (at_ : Location) : (fs.seenFrom at_).locate p = fs.locate p := by
  unfold locate
  rw [absolute, if_pos rfl, if_pos rfl, follow_seenFrom]

theorem SameBut.seenFrom (h : SameBut at_ f g) (place : Location) :
    SameBut at_ (f.seenFrom place) (g.seenFrom place) :=
  ⟨rfl, h.directories, h.others⟩

/-! ## Joined paths -/

/-- The octets of a path behind another one. -/
theorem octets_join (nonempty : p.octets ≠ []) (relative : q.isAbsolute = false) :
    (∃ front, p.octets = front ++ [Path.slash] ∧ (p / q).octets = front ++ Path.slash :: q.octets) ∨
      (p / q).octets = p.octets ++ Path.slash :: q.octets := by
  show (∃ front, _ ∧ (Path.join p q).octets = _) ∨ (Path.join p q).octets = _
  unfold Path.join
  rw [if_neg (by rw [relative]; exact Bool.false_ne_true)]
  split
  · next slashed =>
    rw [Bool.or_eq_true, List.isEmpty_iff, or_iff_right nonempty, beq_iff_eq] at slashed
    obtain ⟨front, whole⟩ := List.getLast?_eq_some_iff.1 slashed
    exact .inl ⟨front, whole, by rw [whole, List.append_assoc]; rfl⟩
  · exact .inr rfl

/-- A relative path behind another one is followed from where that one leads. -/
theorem follow_join (nonempty : p.octets ≠ []) (relative : q.isAbsolute = false) :
    fs.follow start (p / q).segments = .ok x ↔
      ∃ at_, fs.follow start p.segments = .ok at_ ∧ fs.follow at_ q.segments = .ok x := by
  rcases octets_join nonempty relative with ⟨front, whole, joined⟩ | joined
  · have last : p.segments = Path.splitAt Path.slash front ++ [[]] := by
      rw [Path.segments, whole, Path.splitAt_append_separator]
      rfl
    rw [Path.segments, joined, Path.splitAt_append_separator, last, follow_append_eq_ok]
    simp only [follow_append_eq_ok, follow_empty]
    constructor
    · rintro ⟨at_, first, rest⟩
      exact ⟨at_, ⟨at_, first, directory_of_segments rest, rfl⟩, rest⟩
    · rintro ⟨at_, ⟨_, first, -, rfl⟩, rest⟩
      exact ⟨_, first, rest⟩
  · rw [Path.segments, joined, Path.splitAt_append_separator, follow_append_eq_ok]
    rfl

theorem exists_octets_join (nonempty : p.octets ≠ []) (relative : q.isAbsolute = false) :
    ∃ rest, (p / q).octets = p.octets ++ rest := by
  rcases octets_join nonempty relative with ⟨front, whole, joined⟩ | joined
  · exact ⟨q.octets, by rw [joined, whole, List.append_assoc]; rfl⟩
  · exact ⟨_, joined⟩

theorem isUsable_of_join (nonempty : p.octets ≠ []) (relative : q.isAbsolute = false)
    (h : IsUsable (p / q)) : IsUsable p := by
  obtain ⟨whole, -, short⟩ := h
  obtain ⟨rest, joined⟩ := exists_octets_join nonempty relative
  rw [joined] at whole short
  refine ⟨fun zero => whole (List.mem_append_left _ zero), nonempty, ?_⟩
  rw [List.length_append] at short
  omega

theorem isAbsolute_join (nonempty : p.octets ≠ []) (relative : q.isAbsolute = false) :
    (p / q).isAbsolute = p.isAbsolute := by
  obtain ⟨b, octets, whole⟩ := List.exists_cons_of_ne_nil nonempty
  unfold Path.isAbsolute
  obtain ⟨rest, joined⟩ := exists_octets_join nonempty relative
  rw [joined, whole]
  rfl

/-- Where a relative path behind another one leads. -/
theorem locate_join (nonempty : p.octets ≠ []) (relative : q.isAbsolute = false) :
    fs.locate (p / q) = .ok x ↔
      IsUsable (p / q) ∧ ∃ at_, fs.locate p = .ok at_ ∧ fs.follow at_ q.segments = .ok x := by
  rw [locate_eq_ok, follow_join nonempty relative, isAbsolute_join nonempty relative]
  constructor
  · rintro ⟨usable, at_, front, back⟩
    exact ⟨usable, at_, locate_eq_ok.2 ⟨isUsable_of_join nonempty relative usable, front⟩, back⟩
  · rintro ⟨usable, at_, front, back⟩
    exact ⟨usable, at_, (locate_eq_ok.1 front).2, back⟩

end FileSystem

end EmbeddedPython
