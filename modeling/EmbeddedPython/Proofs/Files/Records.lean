import EmbeddedPython.Proofs.Files.Directories

/-!
# Files that records are written to

A record goes to the end of one file.  `FileSystem.SameBut` says that two file
systems differ in what one location holds, and not in where the directories are:
a record and the removal of a file are such changes (`sameBut_record`,
`sameBut_remove`), so every path leads to the same place before and after.

* `FileSystem.Collects` says that a file holds exactly some octets, or that nothing
  is there yet, and that it can be written to.  A record keeps this and adds itself
  (`Collects.record`).
* `FileSystem.Leaves` says that a file at a location stays what it is, whatever
  becomes of others.
-/

namespace EmbeddedPython.FileSystem

variable {f g k : FileSystem} {at_ : Location} {p : Path}

/-! ## Changes at one location -/

/-- The same, but for what one location holds if it holds no directory. -/
structure SameBut (at_ : Location) (f g : FileSystem) : Prop where
  current : g.current = f.current
  directories : ∀ x, g.node? x = some .directory ↔ f.node? x = some .directory
  others : ∀ x, x ≠ at_ → g.node? x = f.node? x

namespace SameBut

theorem refl (at_ : Location) (f : FileSystem) : SameBut at_ f f :=
  ⟨rfl, fun _ => Iff.rfl, fun _ _ => rfl⟩

theorem trans (h : SameBut at_ f g) (h' : SameBut at_ g k) : SameBut at_ f k :=
  ⟨h'.current.trans h.current, fun x => (h'.directories x).trans (h.directories x),
    fun x ne => (h'.others x ne).trans (h.others x ne)⟩

/-- A path leads to the same place before and after. -/
theorem locate (h : SameBut at_ f g) {x : Location} : g.locate p = .ok x ↔ f.locate p = .ok x :=
  ⟨locate_of_directories h.current.symm fun y there => (h.directories y).1 there,
    locate_of_directories h.current fun y there => (h.directories y).2 there⟩

theorem place (h : SameBut at_ f g) (p : Path) : g.place p = f.place p :=
  place_of_current h.current p

/-- A path leads to the same place, or nowhere either time. -/
theorem locate_cases (h : SameBut at_ f g) (p : Path) :
    (∃ x, f.locate p = .ok x ∧ g.locate p = .ok x) ∨
      (∃ fault, f.locate p = .error fault) ∧ ∃ fault, g.locate p = .error fault := by
  cases leads : f.locate p with
  | ok x => exact .inl ⟨x, rfl, h.locate.2 leads⟩
  | error fault =>
    refine .inr ⟨⟨fault, rfl⟩, ?_⟩
    cases led : g.locate p with
    | ok x =>
      rw [h.locate.1 led] at leads
      cases leads
    | error fault => exact ⟨fault, rfl⟩

/-- A file takes the place of a file or of nothing. -/
theorem of_set (free : f.node? at_ ≠ some .directory) (a : File) :
    SameBut at_ f (f.set at_ (.file a)) where
  current := rfl
  directories x := by
    by_cases here : x = at_
    · subst here
      have rooted : x ≠ [] := by
        rintro rfl
        exact free rfl
      rw [node?_set f rooted]
      exact ⟨fun same => (nomatch same), fun there => absurd there free⟩
    · rw [node?_set_of_ne f here]
  others x ne := node?_set_of_ne f ne _

/-- A file is taken away. -/
theorem of_clear {a : File} (there : f.node? at_ = some (.file a)) :
    SameBut at_ f (f.clear at_) where
  current := rfl
  directories x := by
    by_cases here : x = at_
    · subst here
      have rooted : x ≠ [] := by
        rintro rfl
        cases there
      rw [node?_clear f rooted, there]
      exact ⟨fun same => (nomatch same), fun same => (nomatch same)⟩
    · rw [node?_clear_of_ne f here]
  others x ne := node?_clear_of_ne f ne

end SameBut

/-! ## Records and removals -/

/-- A record is lost, or it is at the end of the file that its path leads to. -/
theorem record_cases (fs : FileSystem) (p : Path) (stamp : String) (r : Log.Record) :
    ((∃ fault, fs.openFile p = .error fault) ∧ fs.record p stamp r = fs) ∨
      ∃ old, fs.openFile p = .ok (fs.place p, old) ∧
        fs.record p stamp r = fs.set (fs.place p)
          (.file ⟨.octets ((old.map fun a => octetsOf a.content).getD [] ++
            Octets.ofText (r.text stamp)), old.any File.executable⟩) := by
  unfold FileSystem.record append
  cases opens : fs.openFile p with
  | error fault => exact .inl ⟨⟨fault, rfl⟩, rfl⟩
  | ok found =>
    obtain ⟨at_, old⟩ := found
    obtain rfl := place_of_locate (openFile_of_locate opens).1
    exact .inr ⟨old, rfl, rfl⟩

theorem sameBut_record (fs : FileSystem) (p : Path) (stamp : String) (r : Log.Record) :
    SameBut (fs.place p) fs (fs.record p stamp r) := by
  rcases record_cases fs p stamp r with ⟨-, same⟩ | ⟨old, opens, written⟩
  · rw [same]
    exact .refl _ fs
  · rw [written]
    exact .of_set (openFile_of_locate opens).2 _

/-- Records one after the other, each with the stamp of its time. -/
def recordAll (fs : FileSystem) (p : Path) (entries : List (String × Log.Record)) : FileSystem :=
  entries.foldl (fun fs e => fs.record p e.1 e.2) fs

theorem recordAll_append (fs : FileSystem) (p : Path) (entries more : List (String × Log.Record)) :
    fs.recordAll p (entries ++ more) = (fs.recordAll p entries).recordAll p more :=
  List.foldl_append

theorem sameBut_recordAll (fs : FileSystem) (p : Path) (entries : List (String × Log.Record)) :
    SameBut (fs.place p) fs (fs.recordAll p entries) := by
  induction entries generalizing fs with
  | nil => exact .refl _ fs
  | cons e entries ih =>
    have first := sameBut_record fs p e.1 e.2
    have rest := ih (fs.record p e.1 e.2)
    rw [first.place] at rest
    exact first.trans rest

theorem remove_eq (fs : FileSystem) (p : Path) :
    fs.remove p =
      match fs.locate p with
      | .error fault => .error fault
      | .ok at_ =>
        match fs.node? at_ with
        | some (.file _) => .ok (fs.clear at_)
        | some .directory => .error .isDirectory
        | none => .error .notFound := by
  unfold remove
  cases fs.locate p with
  | error fault => rfl
  | ok at_ => rfl

theorem sameBut_remove {fs removed : FileSystem} (h : fs.remove p = .ok removed) :
    SameBut (fs.place p) fs removed := by
  rw [remove_eq] at h
  split at h
  · cases h
  · next at_ leads =>
    split at h
    · next a there =>
      obtain rfl := Except.ok.inj h
      rw [place_of_locate leads]
      exact .of_clear there
    · cases h
    · cases h

/-- The files without the one at a path, as far as it can be removed. -/
def without (fs : FileSystem) (p : Path) : FileSystem :=
  match fs.remove p with
  | .ok removed => removed
  | .error _ => fs

theorem sameBut_without (fs : FileSystem) (p : Path) : SameBut (fs.place p) fs (fs.without p) := by
  unfold without
  cases removes : fs.remove p with
  | ok removed => exact sameBut_remove removes
  | error fault => exact .refl ..

/-- No file is left where the path leads. -/
theorem node?_without {a : File} (leads : f.locate p = .ok at_) :
    (f.without p).node? at_ ≠ some (.file a) := by
  intro there
  unfold without at there
  rw [remove_eq, leads] at there
  dsimp only at there
  cases found : f.node? at_ with
  | none =>
    rw [found] at there
    cases found.symm.trans there
  | some node =>
    rw [found] at there
    cases node with
    | directory => cases found.symm.trans there
    | file b =>
      have rooted : at_ ≠ [] := by
        rintro rfl
        cases found
      cases (node?_clear f rooted).symm.trans there

/-! ## A file that collects records -/

/-- A file holds some octets, or there is none yet, and it can be written to. -/
def Collects (fs : FileSystem) (p : Path) (held : Option Octets) : Prop :=
  fs.openFile p = .ok (fs.place p, held.map fun o => ⟨.octets o, false⟩)

/-- What is found where a file holds some octets or nothing is. -/
def held : Option Octets → Except FileFault Node
  | none => .error .notFound
  | some o => .ok (.file ⟨.octets o, false⟩)

theorem not_slash_of_openFile {found : Location × Option File} (h : f.openFile p = .ok found) :
    ¬(p.octets.getLast? == some Path.slash) = true := by
  intro slashed
  obtain ⟨fault, fails⟩ := openFile_of_slash f slashed
  rw [fails] at h
  cases h

/-- What is opened is what is there. -/
theorem node?_of_openFile {old : Option File} (h : f.openFile p = .ok (at_, old)) :
    f.node? at_ = old.map .file := by
  rw [openFile_eq f (not_slash_of_openFile h)] at h
  split at h
  · cases h
  · split at h
    · cases h
    · next there =>
      obtain ⟨rfl, rfl⟩ := Prod.mk.inj (Except.ok.inj h)
      exact there
    · next nothing =>
      obtain ⟨rfl, rfl⟩ := Prod.mk.inj (Except.ok.inj h)
      exact nothing

/-- A path that can be opened leads to a file or to nothing. -/
theorem openFile_of_node? {found : Location × Option File} (opens : f.openFile p = .ok found)
    {old : Option File} (leads : g.locate p = .ok at_) (there : g.node? at_ = old.map .file) :
    g.openFile p = .ok (at_, old) := by
  rw [openFile_eq g (not_slash_of_openFile opens), leads]
  dsimp only
  rw [there]
  cases old <;> rfl

/-- What can be written to after its file was taken away is empty. -/
theorem collects_without {o : Octets} (writable : (f.without p).append p o = .ok g) :
    Collects (f.without p) p none := by
  obtain ⟨at_, old, opens⟩ : ∃ at_ old, (f.without p).openFile p = .ok (at_, old) := by
    unfold append at writable
    cases opens : (f.without p).openFile p with
    | error fault =>
      rw [opens] at writable
      cases writable
    | ok found => exact ⟨found.1, found.2, rfl⟩
  have leads := (openFile_of_locate opens).1
  obtain rfl := place_of_locate leads
  have there := node?_of_openFile opens
  cases old with
  | none => exact opens
  | some a => exact absurd there (node?_without ((sameBut_without f p).locate.1 leads))

namespace Collects

variable {text : Option Octets}

theorem locate (h : Collects f p text) : f.locate p = .ok (f.place p) :=
  (openFile_of_locate h).1

theorem find (h : Collects f p text) : f.find p = held text := by
  rw [find_eq, h.locate]
  dsimp only
  rw [node?_of_openFile h]
  cases text <;> rfl

/-- A record goes to the end. -/
theorem record (h : Collects f p text) (stamp : String) (r : Log.Record) :
    Collects (f.record p stamp r) p (some (text.getD [] ++ Octets.ofText (r.text stamp))) := by
  have same := sameBut_record f p stamp r
  rcases record_cases f p stamp r with ⟨⟨fault, fails⟩, -⟩ | ⟨old, opens, written⟩
  · rw [Collects, fails] at h
    cases h
  · obtain rfl : old = text.map fun o => ⟨.octets o, false⟩ :=
      congrArg Prod.snd (Except.ok.inj (opens.symm.trans h))
    unfold Collects
    rw [same.place]
    refine openFile_of_node? h (same.locate.2 h.locate) ?_
    rw [written, node?_set f (rooted_of_openFile opens)]
    cases text <;> rfl

/-- The text of records, one after the other. -/
def textOf (entries : List (String × Log.Record)) : Octets :=
  entries.flatMap fun e => Octets.ofText (e.2.text e.1)

/-- What a file holds after records were added to what it held. -/
def added (text : Option Octets) : List (String × Log.Record) → Option Octets
  | [] => text
  | entries => some (text.getD [] ++ textOf entries)

theorem added_cons (text : Option Octets) (e : String × Log.Record)
    (entries : List (String × Log.Record)) :
    added (some (text.getD [] ++ Octets.ofText (e.2.text e.1))) entries =
      added text (e :: entries) := by
  cases entries with
  | nil => simp [added, textOf]
  | cons e' entries => simp [added, textOf]

/-- Records are added in order. -/
theorem recordAll (h : Collects f p text) (entries : List (String × Log.Record)) :
    Collects (f.recordAll p entries) p (added text entries) := by
  induction entries generalizing f text with
  | nil => exact h
  | cons e entries ih =>
    rw [← added_cons]
    exact ih (h.record e.1 e.2)

end Collects

/-! ## Files that are left alone -/

/-- The file at a location stays as it is, and whatever led there still does. -/
structure Leaves (at_ : Location) (f g : FileSystem) : Prop where
  current : g.current = f.current
  directories : ∀ x, f.node? x = some .directory → g.node? x = some .directory
  here : ∀ a, f.node? at_ = some (.file a) → g.node? at_ = some (.file a)

namespace Leaves

theorem refl (at_ : Location) (f : FileSystem) : Leaves at_ f f :=
  ⟨rfl, fun _ there => there, fun _ there => there⟩

theorem trans (h : Leaves at_ f g) (h' : Leaves at_ g k) : Leaves at_ f k :=
  ⟨h'.current.trans h.current, fun x there => h'.directories x (h.directories x there),
    fun a there => h'.here a (h.here a there)⟩

theorem of_sameBut {other : Location} (h : SameBut other f g) (apart : at_ ≠ other) :
    Leaves at_ f g :=
  ⟨h.current, fun x there => (h.directories x).2 there,
    fun _ there => (h.others at_ apart).trans there⟩

theorem of_makes {places : List Location} (h : Makes f g places) : Leaves at_ f g :=
  ⟨h.current, fun x there => h.kept x _ there, fun _ there => h.kept at_ _ there⟩

/-- A path to the file still leads to it. -/
theorem find (h : Leaves (f.place p) f g) {a : File} (found : f.find p = .ok (.file a)) :
    g.find p = .ok (.file a) := by
  rw [find_eq] at found ⊢
  split at found
  · cases found
  · next at_ leads =>
    rw [locate_of_directories h.current h.directories leads]
    obtain rfl := place_of_locate leads
    split at found
    · next node there =>
      obtain rfl := Except.ok.inj found
      dsimp only
      rw [h.here a there]
    · cases found

end Leaves

end EmbeddedPython.FileSystem
