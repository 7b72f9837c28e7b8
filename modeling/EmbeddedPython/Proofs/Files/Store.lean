import EmbeddedPython.Proofs.Files.Directories
import EmbeddedPython.Proofs.Toml.Configuration

/-!
# Files of settings as a store

Settings that were saved in a file are loaded from it.  `Config.isStore_of_admits`
says so of any number of saves to any files, one after another.

The machine has to admit the paths (`Machine.Admits`): each file can be written
on the machine as it is at first, and none of them is in the way of a directory
of another.  `Config.Holds` is what every save keeps.  It ties the files of the
machine to the ones at first and to what was saved in between.
-/

namespace EmbeddedPython

namespace FileSystem

/-! ## Reading texts -/

theorem readText_of_file {fs : FileSystem} {p : Path} {at_ : Location} {text : String}
    {executable : Bool} (leads : fs.locate p = .ok at_)
    (there : fs.node? at_ = some (.file ⟨.octets (Octets.ofText text), executable⟩)) :
    fs.readText p = .ok text := by
  unfold readText read
  rw [find_eq, leads]
  dsimp only
  rw [there]
  dsimp only [bind, Except.bind, pure, Except.pure]
  rw [Octets.text?_ofText]

theorem readText_of_missing {fs : FileSystem} {p : Path}
    (missing : fs.locate p = .error .notFound ∨
      ∃ at_, fs.locate p = .ok at_ ∧ fs.node? at_ = none) :
    fs.readText p = .error .notFound := by
  unfold readText read
  rw [find_eq]
  rcases missing with nowhere | ⟨at_, leads, nothing⟩
  · rw [nowhere]
    rfl
  · rw [leads]
    dsimp only
    rw [nothing]
    rfl

end FileSystem

/-! ## Machines that settings can be saved on -/

namespace Machine

/-- A file at the path can be written, with the directories in front of it. -/
def Takes (m : Machine) (p : Path) : Prop :=
  ∃ made found, m.createParent p = .ok made ∧ made.files.openFile p = .ok found

/-- Files can be written at all of the paths, and none of them leads to a
directory in front of another. -/
structure Admits (m : Machine) (paths : List Path) : Prop where
  takes : ∀ p ∈ paths, m.Takes p
  apart : ∀ p ∈ paths, ∀ q ∈ paths, p ≠ q → m.files.place p ∉ m.files.front q

theorem Takes.opens {m : Machine} {p : Path} (h : m.Takes p) : ∃ made old,
    m.createParent p = .ok made ∧ m.files.Makes made.files (m.files.front p) ∧
      made.files.openFile p = .ok (m.files.place p, old) := by
  obtain ⟨made, ⟨at_, old⟩, creates, opens⟩ := h
  have makes := makes_createParent creates
  have same := FileSystem.place_of_locate (FileSystem.openFile_of_locate opens).1
  rw [FileSystem.place_of_current makes.current] at same
  subst same
  exact ⟨made, old, creates, makes, opens⟩

/-- No path leads to a directory in front of itself either. -/
theorem Admits.place_not_mem_front {m : Machine} {paths : List Path} (h : m.Admits paths)
    {p q : Path} (here : p ∈ paths) (listed : q ∈ paths) :
    m.files.place p ∉ m.files.front q := by
  by_cases same : p = q
  · subst same
    intro front
    obtain ⟨made, old, -, makes, opens⟩ := (h.takes p here).opens
    exact (FileSystem.openFile_of_locate opens).2 (makes.made _ front)
  · exact h.apart p here q listed same

end Machine

namespace Config

/-- The settings that are saved at every location, as far as they are. -/
abbrev Saved := Location → Option Config

/-- The settings with more of them saved at a location. -/
def Saved.put (saved : Saved) (at_ : Location) (c : Config) : Saved :=
  fun x => if at_ = x then some c else saved x

/-- What a machine holds after saves to some of the paths, told by the machine
before them: its directories and more in front of the paths, its files, and the
documents of the settings that are saved. -/
structure Holds (first : Machine) (paths : List Path) (saved : Saved) (m : Machine) : Prop where
  current : m.files.current = first.files.current
  directories : ∀ x, first.files.node? x = some .directory → m.files.node? x = some .directory
  made : ∀ x, m.files.node? x = some .directory →
    first.files.node? x = some .directory ∨ ∃ p ∈ paths, x ∈ first.files.front p
  files : ∀ x, saved x = none → ∀ a,
    m.files.node? x = some (.file a) ↔ first.files.node? x = some (.file a)
  places : ∀ x c, saved x = some c → ∃ p ∈ paths, first.files.place p = x
  saved : ∀ x c, saved x = some c → ∃ text executable, c.document? = some text ∧
    m.files.node? x = some (.file ⟨.octets (Octets.ofText text), executable⟩)

section Saves

variable {first m : Machine} {paths : List Path} {saved : Saved}

theorem Holds.refl (m : Machine) (paths : List Path) : Holds m paths (fun _ => none) m where
  current := rfl
  directories _ there := there
  made _ there := .inl there
  files _ _ _ := Iff.rfl
  places _ _ there := nomatch there
  saved _ _ there := nomatch there

/-- Making directories saves nothing. -/
theorem Holds.makes (h : Holds first paths saved m) {n : Machine} {p : Path} (here : p ∈ paths)
    (makes : m.files.Makes n.files (first.files.front p)) : Holds first paths saved n where
  current := makes.current.trans h.current
  directories x there := makes.kept x _ (h.directories x there)
  made x there := by
    rcases makes.directories there with before | made
    · exact h.made x before
    · exact .inr ⟨p, here, made⟩
  files x missing a := makes.files.trans (h.files x missing a)
  places := h.places
  saved x c there := by
    obtain ⟨text, executable, written, file⟩ := h.saved x c there
    exact ⟨text, executable, written, makes.files.2 file⟩

/-- No file is at a directory in front of a path. -/
theorem Holds.free (h : Holds first paths saved m) (admits : first.Admits paths) {p : Path}
    (here : p ∈ paths) : ∀ x ∈ first.files.front p, ∀ a, m.files.node? x ≠ some (.file a) := by
  intro x front a file
  cases there : saved x with
  | some c =>
    obtain ⟨q, listed, rfl⟩ := h.places x c there
    exact admits.place_not_mem_front listed here front
  | none =>
    obtain ⟨made, -, makes, -⟩ := admits.takes p here
    have makes := Machine.makes_createParent makes
    have directory := makes.made x front
    rw [makes.kept x _ ((h.files x there a).1 file)] at directory
    cases directory

/-- No directory is where a path leads. -/
theorem Holds.place_free (h : Holds first paths saved m) (admits : first.Admits paths) {p : Path}
    (here : p ∈ paths) : m.files.node? (first.files.place p) ≠ some .directory := by
  intro directory
  obtain ⟨made, old, -, makes, opens⟩ := (admits.takes p here).opens
  rcases h.made _ directory with before | ⟨q, listed, front⟩
  · exact (FileSystem.openFile_of_locate opens).2 (makes.kept _ _ before)
  · exact admits.place_not_mem_front here listed front

/-- A path leads to its place once its directories are made. -/
theorem Holds.locate (h : Holds first paths saved m) (admits : first.Admits paths) {p : Path}
    (here : p ∈ paths)
    (front : ∀ x ∈ first.files.front p, m.files.node? x = some .directory) :
    m.files.locate p = .ok (first.files.place p) := by
  obtain ⟨made, old, -, makes, opens⟩ := (admits.takes p here).opens
  refine FileSystem.locate_of_directories (h.current.trans makes.current.symm) (fun x there => ?_)
    (FileSystem.openFile_of_locate opens).1
  rcases makes.directories there with before | made
  · exact h.directories x before
  · exact front x made

/-- The directories of a path can be made, and its file be opened. -/
theorem Holds.opens (h : Holds first paths saved m) (admits : first.Admits paths) {p : Path}
    (here : p ∈ paths) : ∃ made old, m.createParent p = .ok made ∧
      Holds first paths saved made ∧ made.files.openFile p = .ok (first.files.place p, old) := by
  obtain ⟨before, found, creates, opens⟩ := admits.takes p here
  obtain ⟨made, creates⟩ := Machine.exists_createParent creates h.current (h.free admits here)
  have makes := Machine.makes_createParent creates
  rw [FileSystem.front_of_current h.current] at makes
  have after := h.makes here makes
  obtain ⟨old, opens⟩ := FileSystem.openFile_of_free opens (after.locate admits here makes.made)
    (after.place_free admits here)
  exact ⟨made, old, creates, after, opens⟩

/-- A file of settings is written where a path leads. -/
theorem Holds.writes (h : Holds first paths saved m) (admits : first.Admits paths) {p : Path}
    (here : p ∈ paths) {c : Config} {text : String} (written : c.document? = some text)
    (executable : Bool) :
    Holds first paths (saved.put (first.files.place p) c)
      { m with
        files := m.files.set (first.files.place p)
          (.file ⟨.octets (Octets.ofText text), executable⟩) } := by
  have free := h.place_free admits here
  have rooted : first.files.place p ≠ [] := by
    intro root
    rw [root] at free
    exact free rfl
  have itself := FileSystem.node?_set m.files rooted
  have other {x : Location} (distinct : first.files.place p ≠ x) (node : Node) :=
    FileSystem.node?_set_of_ne m.files (Ne.symm distinct) node
  constructor
  case current => exact h.current
  case directories =>
    intro x there
    have distinct : first.files.place p ≠ x := by
      rintro rfl
      exact free (h.directories _ there)
    exact (other distinct _).trans (h.directories x there)
  case made =>
    intro x there
    have distinct : first.files.place p ≠ x := by
      rintro rfl
      rw [itself] at there
      cases there
    exact h.made x ((other distinct _).symm.trans there)
  case files =>
    intro x missing a
    unfold Saved.put at missing
    split at missing
    · cases missing
    · next distinct =>
      rw [other distinct]
      exact h.files x missing a
  case places =>
    intro x d there
    unfold Saved.put at there
    split at there
    · next same => exact ⟨p, here, same⟩
    · exact h.places x d there
  case saved =>
    intro x d there
    unfold Saved.put at there
    split at there
    · next same =>
      subst same
      obtain rfl := Option.some.inj there
      exact ⟨text, executable, written, itself _⟩
    · next distinct =>
      obtain ⟨text', executable', written', file⟩ := h.saved x d there
      exact ⟨text', executable', written', (other distinct _).trans file⟩

/-! ## Saves one after another -/

/-- Settings that go to a file. -/
structure Save where
  path : Path
  config : Config

/-- How a save ends, and the machine that it leaves. -/
def Save.run (s : Save) (m : Machine) : Except ConfigError Unit × Machine :=
  s.config.save m s.path

/-- How saves end that come one after another, and the machine that they leave. -/
def saveAll : List Save → Machine → List (Except ConfigError Unit) × Machine
  | [], m => ([], m)
  | s :: rest, m =>
    let after := saveAll rest (s.run m).2
    ((s.run m).1 :: after.1, after.2)

/-- The settings that a save leaves at a location, if it ends well and leads there. -/
def Save.saved? (s : Save) (m : Machine) (at_ : Location) : Option Config :=
  if (s.run m).1.isOk && m.files.place s.path = at_ then some s.config else none

/-- The settings of the last save at a location that ended well. -/
def lastSaved? (at_ : Location) : List Save → Machine → Option Config
  | [], _ => none
  | s :: rest, m => (lastSaved? at_ rest (s.run m).2).or (s.saved? m at_)

/-- How a save ends where nothing is in its way. -/
def Save.ends (s : Save) : Except ConfigError Unit :=
  if (Octets.text? s.config.root.octets).isSome then .ok () else .error .unwritable

/-- A save makes directories, and then writes a document if there is one. -/
theorem Holds.run_cases (h : Holds first paths saved m) (admits : first.Admits paths) {s : Save}
    (here : s.path ∈ paths) : ∃ made, Holds first paths saved made ∧
      (∀ x ∈ first.files.front s.path, made.files.node? x = some .directory) ∧
      ((s.config.document? = none ∧ s.run m = (.error .unwritable, made)) ∨
        ∃ text executable, s.config.document? = some text ∧
          s.run m = (.ok (), { made with
            files := made.files.set (first.files.place s.path)
              (.file ⟨.octets (Octets.ofText text), executable⟩) })) := by
  obtain ⟨made, old, creates, after, opens⟩ := h.opens admits here
  have makes := Machine.makes_createParent creates
  rw [FileSystem.front_of_current h.current] at makes
  refine ⟨made, after, makes.made, ?_⟩
  unfold Save.run Config.save
  rw [creates]
  dsimp only
  cases written : s.config.document? with
  | none => exact .inl ⟨rfl, rfl⟩
  | some text =>
    refine .inr ⟨text, old.any File.executable, rfl, ?_⟩
    dsimp only
    rw [FileSystem.write, opens]
    rfl

/-- A save ends well if a text can hold the root, and all that was saved stays. -/
theorem Holds.run (h : Holds first paths saved m) (admits : first.Admits paths) {s : Save}
    (here : s.path ∈ paths) : (s.run m).1 = s.ends ∧
      Holds first paths (fun x => (s.saved? m x).or (saved x)) (s.run m).2 := by
  obtain ⟨made, after, -, ⟨unwritten, ran⟩ | ⟨text, executable, written, ran⟩⟩ :=
    h.run_cases admits here
  · have nothing (x : Location) : s.saved? m x = none := by
      rw [Save.saved?, ran]
      rfl
    have unread : (Octets.text? s.config.root.octets).isSome = false := by
      rw [← document?_isSome, unwritten]
      rfl
    simp only [nothing, Option.none_or]
    rw [ran, Save.ends, unread]
    exact ⟨rfl, after⟩
  · have read : (Octets.text? s.config.root.octets).isSome = true := by
      rw [← document?_isSome, written]
      rfl
    have put : (fun x => (s.saved? m x).or (saved x)) =
        saved.put (first.files.place s.path) s.config := by
      funext x
      unfold Save.saved? Saved.put
      rw [ran, FileSystem.place_of_current h.current]
      by_cases same : first.files.place s.path = x <;> simp [same, Except.isOk, Except.toBool]
    rw [put, ran, Save.ends, read]
    exact ⟨rfl, after.writes admits here written executable⟩

/-- Saves end one by one as they would alone, and the last at a place is kept. -/
theorem Holds.saveAll (h : Holds first paths saved m) (admits : first.Admits paths)
    {saves : List Save} (here : ∀ s ∈ saves, s.path ∈ paths) :
    (saveAll saves m).1 = saves.map Save.ends ∧
      Holds first paths (fun x => (lastSaved? x saves m).or (saved x)) (saveAll saves m).2 := by
  induction saves generalizing m saved with
  | nil => exact ⟨rfl, h⟩
  | cons s rest ih =>
    simp only [List.mem_cons, forall_eq_or_imp] at here
    obtain ⟨ended, after⟩ := h.run admits here.1
    obtain ⟨more, last⟩ := ih after here.2
    simp only [lastSaved?, Option.or_assoc]
    exact ⟨by rw [Config.saveAll, ended, more, List.map_cons], last⟩

/-- Machines on which settings were saved admit the same paths. -/
theorem Holds.admits (h : Holds first paths saved m) (admits : first.Admits paths) :
    m.Admits paths where
  takes p here := by
    obtain ⟨made, old, creates, -, opens⟩ := h.opens admits here
    exact ⟨made, _, creates, opens⟩
  apart p here q listed := by
    rw [FileSystem.place_of_current h.current, FileSystem.front_of_current h.current]
    exact admits.apart p here q listed

/-- A save leaves the directories in front of its path. -/
theorem Holds.front_run (h : Holds first paths saved m) (admits : first.Admits paths) {s : Save}
    (here : s.path ∈ paths) :
    ∀ x ∈ first.files.front s.path, (s.run m).2.files.node? x = some .directory := by
  obtain ⟨made, after, front, ⟨-, ran⟩ | ⟨text, executable, -, ran⟩⟩ := h.run_cases admits here
  · rw [ran]
    exact front
  · intro x there
    have distinct : x ≠ first.files.place s.path := by
      rintro rfl
      exact admits.place_not_mem_front here here there
    rw [ran]
    exact (FileSystem.node?_set_of_ne made.files distinct _).trans (front x there)

/-- The directories in front of a path stay after a save to it. -/
theorem Holds.front_saveAll (h : Holds first paths saved m) (admits : first.Admits paths)
    {saves : List Save} (here : ∀ s ∈ saves, s.path ∈ paths) : ∀ s ∈ saves,
      ∀ x ∈ first.files.front s.path,
        (Config.saveAll saves m).2.files.node? x = some .directory := by
  induction saves generalizing m saved with
  | nil => exact fun s there => nomatch there
  | cons s rest ih =>
    simp only [List.mem_cons, forall_eq_or_imp] at here ⊢
    have after := (h.run admits here.1).2
    refine ⟨fun x there => ?_, ih after here.2⟩
    -- The saves that follow begin on a machine that has the directories.
    have later := ((Holds.refl _ paths).saveAll (after.admits admits) here.2).2
    exact later.directories x (h.front_run admits here.1 x there)

/-! ## Reading what was saved -/

/-- Settings that were saved are loaded. -/
theorem load_of_holds (h : Holds first paths saved m) {p : Path} {c : Config}
    (leads : m.files.locate p = .ok (first.files.place p))
    (there : saved (first.files.place p) = some c) : load m p = .ok c := by
  obtain ⟨text, executable, written, file⟩ := h.saved _ c there
  unfold load
  rw [FileSystem.readText_of_file leads file]
  exact ofText_document written

/-- Nothing is where nothing was saved and nothing was at first. -/
theorem Holds.node?_place (h : Holds first paths saved m) (admits : first.Admits paths) {p : Path}
    (here : p ∈ paths) (missing : saved (first.files.place p) = none)
    (nothing : first.files.node? (first.files.place p) = none) :
    m.files.node? (first.files.place p) = none := by
  cases node : m.files.node? (first.files.place p) with
  | none => rfl
  | some found =>
    cases found with
    | directory => exact absurd node (h.place_free admits here)
    | file a =>
      rw [(h.files _ missing a).1 node] at nothing
      cases nothing

/-- A path leads to its place or to nothing. -/
theorem Holds.locate_or_not_found (h : Holds first paths saved m) (admits : first.Admits paths)
    {p : Path} (here : p ∈ paths) : m.files.locate p = .ok (first.files.place p) ∨
      m.files.locate p = .error .notFound := by
  obtain ⟨made, old, -, makes, opens⟩ := (admits.takes p here).opens
  have clear : ∀ x, made.files.node? x = some .directory →
      m.files.node? x = some .directory ∨ m.files.node? x = none := by
    intro x there
    rcases makes.directories there with before | front
    · exact .inl (h.directories x before)
    · cases node : m.files.node? x with
      | none => exact .inr rfl
      | some found =>
        cases found with
        | directory => exact .inl rfl
        | file a => exact absurd node (h.free admits here x front a)
  rcases FileSystem.locate_of_no_files (h.current.trans makes.current.symm) clear
    (FileSystem.openFile_of_locate opens).1 with leads | ⟨fails, -⟩
  · exact .inl leads
  · exact .inr fails

/-- Nothing is found where nothing was saved. -/
theorem load_of_missing (h : Holds first paths saved m) (admits : first.Admits paths) {p : Path}
    (here : p ∈ paths) (missing : saved (first.files.place p) = none)
    (nothing : first.files.node? (first.files.place p) = none) :
    load m p = .error (.notFound p) := by
  have unread : m.files.readText p = .error .notFound := by
    refine FileSystem.readText_of_missing ?_
    rcases h.locate_or_not_found admits here with leads | fails
    · exact .inr ⟨_, leads, h.node?_place admits here missing nothing⟩
    · exact .inl fails
  unfold load
  rw [unread]

end Saves

/-! ## The store -/

/-- A save that no text can tell leaves every file as it was. -/
theorem node?_run_of_unwritable {s : Save} {m : Machine}
    (refused : (s.run m).1 = .error .unwritable) {at_ : Location} {a : File}
    (there : m.files.node? at_ = some (.file a)) :
    (s.run m).2.files.node? at_ = some (.file a) := by
  unfold Save.run save at refused ⊢
  cases creates : m.createParent s.path with
  | error fault =>
    rw [creates] at refused
    cases refused
  | ok made =>
    simp only [creates] at refused ⊢
    cases written : s.config.document? with
    | none => exact (Machine.makes_createParent creates).kept at_ _ there
    | some text =>
      simp only [written] at refused
      split at refused <;> cases refused

/-- Files of settings are a store.  Which file it is, is told by the place that
a path leads to. -/
structure IsStore (m : Machine) (paths : List Path) (saves : List Save) : Prop where
  /-- A save ends well if a text can hold the root. -/
  ends : (saveAll saves m).1 = saves.map Save.ends
  /-- What is loaded is what was saved last. -/
  loads : ∀ s ∈ saves, ∀ c, lastSaved? (m.files.place s.path) saves m = some c →
    load (saveAll saves m).2 s.path = .ok c
  /-- Nothing is found where nothing was saved, unless it was there before. -/
  missing : ∀ p ∈ paths, lastSaved? (m.files.place p) saves m = none →
    m.files.node? (m.files.place p) = none → load (saveAll saves m).2 p = .error (.notFound p)
  /-- Files in which nothing was saved are the same. -/
  others : ∀ at_ a, lastSaved? at_ saves m = none →
    ((saveAll saves m).2.files.node? at_ = some (.file a) ↔ m.files.node? at_ = some (.file a))
  /-- On any machine, a save of what cannot be written leaves every file as it
  was. -/
  refused : ∀ (s : Save) (n : Machine), (s.run n).1 = .error .unwritable →
    ∀ at_ a, n.files.node? at_ = some (.file a) → (s.run n).2.files.node? at_ = some (.file a)

/-- Files that a machine admits are a store, through any saves. -/
theorem isStore_of_admits {m : Machine} {paths : List Path} (admits : m.Admits paths)
    {saves : List Save} (listed : ∀ s ∈ saves, s.path ∈ paths) : IsStore m paths saves := by
  obtain ⟨ends, last⟩ := (Holds.refl m paths).saveAll admits listed
  simp only [Option.or_none] at last
  have front := (Holds.refl m paths).front_saveAll admits listed
  refine ⟨ends, fun s here c there => ?_, fun p here missing nothing => ?_,
    fun at_ a missing => last.files at_ missing a,
    fun s n refused at_ a there => node?_run_of_unwritable refused there⟩
  · have leads := last.locate admits (listed s here) (front s here)
    exact load_of_holds last leads there
  · exact load_of_missing last admits here missing nothing

namespace TwoFiles

/-- A machine with one directory. -/
def machine : Machine :=
  { (default : Machine) with files := ⟨[([Octets.ofText "etc"], .directory)], []⟩ }

/-- Files in that directory and in one that is not there at first. -/
def paths : List Path := [.ofText "/etc/first.toml", .ofText "/etc/new/./second.toml"]

/-- Two saves that can be written, and then one that cannot. -/
def saves : List Save :=
  [⟨.ofText "/etc/first.toml", .ofRoot (.ofText "/opt/python") none⟩,
    ⟨.ofText "/etc/new/./second.toml",
      ⟨.ofText "/opt/py\"'''\r", some "3.\"12\"\n", "get\"\"\"\"\\.py", 300, true⟩⟩,
    ⟨.ofText "/etc/first.toml", .ofRoot ⟨[0xFF]⟩ none⟩]

end TwoFiles

/-- The last of the saves is refused, and the files are a store. -/
theorem isStore_twoFiles : TwoFiles.machine.Admits TwoFiles.paths ∧
    (∀ s ∈ TwoFiles.saves, s.path ∈ TwoFiles.paths) ∧
    (saveAll TwoFiles.saves TwoFiles.machine).1 = [.ok (), .ok (), .error .unwritable] ∧
    IsStore TwoFiles.machine TwoFiles.paths TwoFiles.saves := by
  have admits : TwoFiles.machine.Admits TwoFiles.paths := by
    refine ⟨?_, by decide⟩
    simp only [TwoFiles.paths, List.mem_cons, List.not_mem_nil, or_false, forall_eq_or_imp,
      forall_eq]
    exact ⟨⟨_, _, rfl, rfl⟩, ⟨_, _, rfl, rfl⟩⟩
  have listed : ∀ s ∈ TwoFiles.saves, s.path ∈ TwoFiles.paths := by
    simp [TwoFiles.saves, TwoFiles.paths]
  have store := isStore_of_admits admits listed
  have malformed : Octets.text? [0xFF] = none := by
    simp [Octets.text?, Octets.chunks, Octets.nextChunk, Octets.Chunk.scalar?]
  refine ⟨admits, listed, store.ends.trans ?_, store⟩
  simp [TwoFiles.saves, Save.ends, ofRoot, Path.ofText, Octets.text?_ofText, malformed]

end Config

end EmbeddedPython
