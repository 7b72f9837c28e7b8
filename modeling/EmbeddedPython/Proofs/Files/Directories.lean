import EmbeddedPython.Machine
import EmbeddedPython.Proofs.Files.Alike

/-!
# Paths and the directories in front of them

Where a path leads hangs on directories only, so it leads to the same place when
more directories and more files are there (`locate_of_directories`).  The
directories in front of a path (`FileSystem.front`) can be made wherever no file
is in the way (`Machine.exists_createParent`), and nothing else changes when they
are (`Machine.makes_createParent`).
-/

namespace EmbeddedPython

namespace FileSystem

/-! ## Where a path leads -/

theorem follow_of_no_files {f g : FileSystem}
    (free : ∀ at_, f.node? at_ = some .directory →
      g.node? at_ = some .directory ∨ g.node? at_ = none)
    {start at_ : Location} {segments : List Octets} (leads : f.follow start segments = .ok at_) :
    g.follow start segments = .ok at_ ∨ (g.follow start segments = .error .notFound ∧
      ∃ x, f.node? x = some .directory ∧ g.node? x = none) := by
  induction segments generalizing start with
  | nil => exact .inl leads
  | cons segment rest ih =>
    unfold follow at leads ⊢
    split at leads
    · cases leads
    · cases leads
    · next directory =>
      split at leads
      · cases leads
      · next short =>
        rcases free start directory with here | missing
        · rw [here]
          dsimp only
          rw [if_neg short]
          exact ih leads
        · rw [missing]
          exact .inr ⟨rfl, start, directory, missing⟩

/-- Where no file is in the way, a path leads to its place, or a directory is
missing. -/
theorem locate_of_no_files {f g : FileSystem} (current : g.current = f.current)
    (free : ∀ at_, f.node? at_ = some .directory →
      g.node? at_ = some .directory ∨ g.node? at_ = none)
    {p : Path} {at_ : Location} (leads : f.locate p = .ok at_) :
    g.locate p = .ok at_ ∨ (g.locate p = .error .notFound ∧
      ∃ x, f.node? x = some .directory ∧ g.node? x = none) := by
  unfold locate at leads ⊢
  split at leads
  · cases leads
  · next whole =>
    rw [if_neg whole]
    split at leads
    · cases leads
    · next nonempty =>
      rw [if_neg nonempty]
      split at leads
      · cases leads
      · next short =>
        rw [if_neg short, current]
        exact follow_of_no_files free leads

/-- Directories are all that a path needs to lead somewhere. -/
theorem locate_of_directories {f g : FileSystem} (current : g.current = f.current)
    (kept : ∀ at_, f.node? at_ = some .directory → g.node? at_ = some .directory)
    {p : Path} {at_ : Location} (leads : f.locate p = .ok at_) : g.locate p = .ok at_ := by
  rcases locate_of_no_files current (fun at_ there => .inl (kept at_ there)) leads with
    led | ⟨-, x, there, missing⟩
  · exact led
  · rw [kept x there] at missing
    cases missing

/-- A file can be opened unless its path leads nowhere or to a directory. -/
theorem openFile_of_locate {f : FileSystem} {p : Path} {at_ : Location} {old : Option File}
    (opens : f.openFile p = .ok (at_, old)) :
    f.locate p = .ok at_ ∧ f.node? at_ ≠ some .directory := by
  by_cases slashed : (p.octets.getLast? == some Path.slash) = true
  · obtain ⟨fault, fails⟩ := openFile_of_slash f slashed
    rw [fails] at opens
    cases opens
  · rw [openFile_eq f slashed] at opens
    split at opens
    · cases opens
    · next located =>
      split at opens
      · cases opens
      · next file there =>
        obtain ⟨rfl, -⟩ := Prod.mk.inj (Except.ok.inj opens)
        exact ⟨located, there ▸ fun same => nomatch same⟩
      · next nothing =>
        obtain ⟨rfl, -⟩ := Prod.mk.inj (Except.ok.inj opens)
        exact ⟨located, nothing ▸ fun same => nomatch same⟩

/-- The root is no file. -/
theorem rooted_of_openFile {f : FileSystem} {p : Path} {at_ : Location} {old : Option File}
    (opens : f.openFile p = .ok (at_, old)) : at_ ≠ [] := by
  rintro rfl
  exact (openFile_of_locate opens).2 rfl

/-- The location that a path leads to, whatever is there and on the way. -/
def place (fs : FileSystem) (p : Path) : Location :=
  p.segments.foldl enter (if p.isAbsolute then [] else fs.current)

theorem place_of_current {f g : FileSystem} (current : g.current = f.current) (p : Path) :
    g.place p = f.place p := by
  rw [place, place, current]

theorem foldl_enter_of_follow {fs : FileSystem} {start at_ : Location} {segments : List Octets}
    (leads : fs.follow start segments = .ok at_) : segments.foldl enter start = at_ := by
  induction segments generalizing start with
  | nil => exact Except.ok.inj leads
  | cons segment rest ih =>
    unfold follow at leads
    split at leads
    · cases leads
    · cases leads
    · split at leads
      · cases leads
      · exact ih leads

theorem place_of_locate {fs : FileSystem} {p : Path} {at_ : Location}
    (leads : fs.locate p = .ok at_) : fs.place p = at_ := by
  unfold locate at leads
  split at leads
  · cases leads
  · split at leads
    · cases leads
    · split at leads
      · cases leads
      · exact foldl_enter_of_follow leads

theorem openFile_of_free {f g : FileSystem} {p : Path} {found : Location × Option File}
    (opens : f.openFile p = .ok found) {at_ : Location} (leads : g.locate p = .ok at_)
    (free : g.node? at_ ≠ some .directory) : ∃ old, g.openFile p = .ok (at_, old) := by
  by_cases slashed : (p.octets.getLast? == some Path.slash) = true
  · obtain ⟨fault, fails⟩ := openFile_of_slash f slashed
    rw [fails] at opens
    cases opens
  · rw [openFile_eq g slashed, leads]
    dsimp only
    split
    · next directory => exact absurd directory free
    · exact ⟨_, rfl⟩
    · exact ⟨_, rfl⟩

/-! ## Directories that are made -/

/-- The locations that segments lead to, one after the other. -/
def along : Location → List Octets → List Location
  | _, [] => []
  | at_, segment :: rest => enter at_ segment :: along (enter at_ segment) rest

/-- The locations of the directories in front of a path: the one that it is
in, and all that lead there. -/
def front (fs : FileSystem) (p : Path) : List Location :=
  match p.parent? with
  | none => []
  | some directory =>
    if directory.octets.isEmpty then []
    else along (if directory.isAbsolute then [] else fs.current) directory.segments

theorem front_of_current {f g : FileSystem} (current : g.current = f.current) (p : Path) :
    g.front p = f.front p := by
  rw [front, front, current]

/-- Directories were made where nothing was. -/
structure Makes (f g : FileSystem) (places : List Location) : Prop where
  current : g.current = f.current
  made : ∀ at_ ∈ places, g.node? at_ = some .directory
  kept : ∀ at_ node, f.node? at_ = some node → g.node? at_ = some node
  others : ∀ at_ ∉ places, g.node? at_ = f.node? at_

namespace Makes

variable {f g : FileSystem} {places : List Location}

theorem refl (f : FileSystem) : Makes f f [] :=
  ⟨rfl, fun _ there => (nomatch there), fun _ _ there => there, fun _ _ => rfl⟩

/-- The files are the same. -/
theorem files (h : Makes f g places) {at_ : Location} {a : File} :
    g.node? at_ = some (.file a) ↔ f.node? at_ = some (.file a) := by
  by_cases there : at_ ∈ places
  · constructor
    · intro file
      rw [h.made at_ there] at file
      cases file
    · exact h.kept at_ _
  · rw [h.others at_ there]

/-- A directory was there, or it was made. -/
theorem directories (h : Makes f g places) {at_ : Location}
    (there : g.node? at_ = some .directory) : f.node? at_ = some .directory ∨ at_ ∈ places := by
  by_cases made : at_ ∈ places
  · exact .inr made
  · rw [h.others at_ made] at there
    exact .inl there

end Makes

theorem rooted_of_none {fs : FileSystem} {at_ : Location} (nothing : fs.node? at_ = none) :
    at_ ≠ [] := by
  rintro rfl
  cases nothing

namespace Makes

variable {f g : FileSystem} {places : List Location} {x : Location}

/-- Directories are made below one that is there. -/
theorem of_directory (directory : f.node? x = some .directory) (after : Makes f g places) :
    Makes f g (x :: places) := by
  refine ⟨after.current, ?_, after.kept, ?_⟩
  · intro y there
    rcases List.mem_cons.1 there with rfl | there
    · exact after.kept _ _ directory
    · exact after.made y there
  · intro y missing
    exact after.others y fun there => missing (List.mem_cons_of_mem _ there)

/-- Directories are made below one that is made first. -/
theorem of_createAt (nothing : f.node? x = none) (after : Makes (f.createAt x) g places) :
    Makes f g (x :: places) := by
  have rooted := rooted_of_none nothing
  have other {y : Location} (h : y ≠ x) : (f.createAt x).node? y = f.node? y :=
    node?_set_of_ne f h _
  refine ⟨after.current, ?_, ?_, ?_⟩
  · intro y there
    rcases List.mem_cons.1 there with rfl | there
    · exact after.kept _ _ (node?_set f rooted _)
    · exact after.made y there
  · intro y node there
    have distinct : y ≠ x := by
      rintro rfl
      rw [nothing] at there
      cases there
    exact after.kept y node ((other distinct).trans there)
  · intro y missing
    rw [List.mem_cons, not_or] at missing
    exact (after.others y missing.2).trans (other missing.1)

end Makes

theorem makes_createAlong {f g : FileSystem} {at_ : Location} {segments : List Octets}
    (made : f.createAlong at_ segments = .ok g) : Makes f g (along at_ segments) := by
  induction segments generalizing f at_ with
  | nil =>
    obtain rfl := Except.ok.inj made
    exact .refl f
  | cons segment rest ih =>
    unfold createAlong at made
    dsimp only at made
    split at made
    · cases made
    · split at made
      · next directory => exact .of_directory directory (ih made)
      · next nothing => exact .of_createAt nothing (ih made)
      · split at made <;> cases made

/-- What can be made of directories is made where nothing was. -/
theorem makes_makeAlong (f : FileSystem) (at_ : Location) (segments : List Octets) :
    ∃ places, Makes f (f.makeAlong at_ segments) places := by
  induction segments generalizing f at_ with
  | nil => exact ⟨[], .refl f⟩
  | cons segment rest ih =>
    unfold makeAlong
    dsimp only
    split
    · exact ⟨[], .refl f⟩
    · split
      · exact ih f _
      · next nothing =>
        obtain ⟨places, after⟩ := ih (f.createAt (enter at_ segment)) (enter at_ segment)
        exact ⟨_, .of_createAt nothing after⟩
      · exact ⟨[], .refl f⟩

/-- Directories can be made where they could be made elsewhere and no file is
in the way. -/
theorem exists_createAlong {f f' : FileSystem} {at_ : Location} {segments : List Octets}
    (made : f.createAlong at_ segments = .ok f') {g : FileSystem}
    (free : ∀ x ∈ along at_ segments, ∀ a, g.node? x ≠ some (.file a)) :
    ∃ g', g.createAlong at_ segments = .ok g' := by
  induction segments generalizing f g at_ with
  | nil => exact ⟨g, rfl⟩
  | cons segment rest ih =>
    obtain ⟨short, f₁, restMade⟩ : ¬longestName < segment.length ∧
        ∃ f₁ : FileSystem, f₁.createAlong (enter at_ segment) rest = .ok f' := by
      unfold createAlong at made
      dsimp only at made
      split at made
      · cases made
      · next short =>
        split at made
        · exact ⟨short, f, made⟩
        · exact ⟨short, _, made⟩
        · split at made <;> cases made
    simp only [along, List.mem_cons, forall_eq_or_imp] at free
    unfold createAlong
    dsimp only
    rw [if_neg short]
    split
    · exact ih restMade free.2
    · next nothing =>
      refine ih restMade fun x there a => ?_
      by_cases same : x = enter at_ segment
      · subst same
        rw [createAt, node?_set _ (rooted_of_none nothing)]
        exact fun h => nomatch h
      · rw [createAt, node?_set_of_ne _ same]
        exact free.2 x there a
    · next file => exact absurd file (free.1 _)

end FileSystem

namespace Machine

/-- What it takes to make the directory of a path is the same on every machine
with the same working directory. -/
theorem createParent_cases {m made : Machine} {p : Path} (h : m.createParent p = .ok made) :
    (m.files.front p = [] ∧ made = m ∧ ∀ n : Machine, n.createParent p = .ok n) ∨
    ∃ start segments files, m.files.front p = FileSystem.along start segments ∧
      m.files.createAlong start segments = .ok files ∧ made = { m with files } ∧
      ∀ n : Machine, n.files.current = m.files.current → ∀ files,
        n.files.createAlong start segments = .ok files →
          n.createParent p = .ok { n with files } := by
  unfold createParent at h ⊢
  unfold FileSystem.front
  cases parent : p.parent? with
  | none =>
    rw [parent] at h
    exact .inl ⟨rfl, (Except.ok.inj h).symm, fun _ => rfl⟩
  | some directory =>
    rw [parent] at h
    dsimp only at h ⊢
    cases created : m.files.createDirectories directory with
    | error fault =>
      rw [created] at h
      cases h
    | ok files =>
      rw [created] at h
      obtain rfl := Except.ok.inj h
      unfold FileSystem.createDirectories at created ⊢
      split at created
      · next empty =>
        obtain rfl := Except.ok.inj created
        exact .inl ⟨if_pos empty, rfl, fun _ => by rw [if_pos empty]⟩
      · next nonempty =>
        split at created
        · cases created
        · next whole =>
          split at created
          · cases created
          · next short =>
            refine .inr ⟨_, _, files, if_neg nonempty, created, rfl,
              fun n current files' along => ?_⟩
            rw [if_neg nonempty, if_neg whole, if_neg short, current, along]

/-- The directory of a path is made, with all in front of it. -/
theorem makes_createParent {m made : Machine} {p : Path} (h : m.createParent p = .ok made) :
    m.files.Makes made.files (m.files.front p) := by
  rcases createParent_cases h with ⟨empty, rfl, -⟩ | ⟨start, segments, files, same, along, rfl, -⟩
  · rw [empty]
    exact .refl _
  · rw [same]
    exact FileSystem.makes_createAlong along

/-- The directory of a path can be made where it could be made elsewhere and
no file is in the way. -/
theorem exists_createParent {m made n : Machine} {p : Path} (h : m.createParent p = .ok made)
    (current : n.files.current = m.files.current)
    (free : ∀ x ∈ m.files.front p, ∀ a, n.files.node? x ≠ some (.file a)) :
    ∃ made', n.createParent p = .ok made' := by
  rcases createParent_cases h with ⟨-, -, all⟩ | ⟨start, segments, files, same, along, -, all⟩
  · exact ⟨n, all n⟩
  · rw [same] at free
    obtain ⟨files', along'⟩ := FileSystem.exists_createAlong along free
    exact ⟨{ n with files := files' }, all n current files' along'⟩

/-- What can be made of the directory of a path is made where nothing was. -/
theorem makes_makeParent (m : Machine) (p : Path) :
    ∃ places, m.files.Makes (m.makeParent p).files places := by
  unfold makeParent
  split
  · exact ⟨[], .refl _⟩
  · unfold FileSystem.makeDirectories
    dsimp only
    split
    · exact ⟨[], .refl _⟩
    · exact FileSystem.makes_makeAlong ..

end Machine

end EmbeddedPython
