import EmbeddedPython.Environment
import EmbeddedPython.Library
import EmbeddedPython.Proofs.Files.Components
import EmbeddedPython.Proofs.Logging.Calls
import EmbeddedPython.Proofs.Text.Octets
import Mathlib.Data.List.Nodup

/-!
# Where libraries are looked for

An installation has eight places for its library (`Installation.places`).  They are all
below its root, and no two of them are the same (`Installation.nodup_components_places`).
The first one that is a file decides (`FileSystem.IsFirstFile`): what is in front of it
is passed over, and what is behind it does not matter.

A search tells of every place first, so it writes to the log, and the log may be at one
of the places itself.  Once something was written to it, no record changes anything that a
search looks at (`FileSystem.SettledAt.sameLibraries_record`).  So the files as they were
say what is found (`Machine.locateLibrary_of_settled`).
-/

namespace EmbeddedPython

/-! ## Places -/

/-- The text of a series has digits and dots in it. -/
theorem Version.isDigit_or_dot {v : Version} {c : Char} (mem : c ∈ v.text.toList) :
    Numeral.isDigit c = true ∨ c = '.' := by
  have digit {n : Nat} (mem : c ∈ (Numeral.text n).toList) : Numeral.isDigit c = true := by
    rw [Numeral.text, String.toList_ofList] at mem
    exact Numeral.isDigit_of_mem_decimal n c mem
  unfold Version.text at mem
  split at mem
  · rw [String.toList_append, String.toList_append, List.mem_append, List.mem_append] at mem
    rcases mem with (mem | mem) | mem
    · exact .inl (digit mem)
    · exact .inr (List.mem_singleton.1 mem)
    · exact .inl (digit mem)
  · exact .inl (digit mem)

/-- An ASCII octet that is neither a digit nor a dot is not in the text of a series. -/
theorem Version.not_mem_ofText_text (v : Version) {b : UInt8} (ascii : b < 0x80)
    (other : ∀ c : Char, c.toNat = b.toNat → Numeral.isDigit c = false ∧ c ≠ '.') :
    b ∉ Octets.ofText v.text := by
  rw [Octets.mem_ofText_iff ascii]
  rintro ⟨c, mem, same⟩
  obtain ⟨noDigit, noDot⟩ := other c same
  rcases Version.isDigit_or_dot mem with digit | dot
  · rw [digit] at noDigit
    cases noDigit
  · exact noDot dot

namespace Installation

open EmbeddedPython.Path

/-- The name of a library of a series. -/
def libraryName (v : Version) (ending : String) : String := "libpython" ++ v.text ++ ending

/-- The places of the library. -/
def places (i : Installation) : List Path :=
  [i.root / "lib" / libraryName i.version ".so.1.0",
    i.root / "lib64" / libraryName i.version ".so.1.0",
    i.root / "lib" / "x86_64-linux-gnu" / libraryName i.version ".so.1.0",
    i.root / libraryName i.version ".so.1.0",
    i.root / "lib" / libraryName i.version ".so",
    i.root / "lib64" / libraryName i.version ".so",
    i.root / "lib" / "x86_64-linux-gnu" / libraryName i.version ".so",
    i.root / libraryName i.version ".so"]

theorem libraryCandidates_eq (i : Installation) : i.libraryCandidates = i.places := rfl

theorem components_directory (p : Path) {name : String} (plain : slash ∉ Octets.ofText name)
    (long : 3 ≤ (Octets.ofText name).length) :
    (p / name).components = p.components ++ [.name (Octets.ofText name)] :=
  components_join_name p plain (component?_of_long long)

theorem components_library (p : Path) (v : Version) {ending : String}
    (plain : slash ∉ Octets.ofText ending) :
    (p / libraryName v ending).components =
      p.components ++ [.name (Octets.ofText (libraryName v ending))] := by
  have whole : Octets.ofText (libraryName v ending) =
      Octets.ofText "libpython" ++ Octets.ofText v.text ++ Octets.ofText ending := by
    rw [libraryName, Octets.ofText_append, Octets.ofText_append]
  refine components_directory p ?_ ?_
  · rw [whole, List.mem_append, List.mem_append, not_or, not_or]
    refine ⟨⟨by decide, v.not_mem_ofText_text (by decide) fun c same => ?_⟩, plain⟩
    obtain rfl : c = '/' := Char.ext (UInt32.toNat_inj.1 same)
    decide
  · have long : 3 ≤ (Octets.ofText "libpython").length := by decide
    rw [whole, List.length_append, List.length_append]
    omega

end Installation

/-! ## The first file -/

namespace FileSystem

variable {f g k : FileSystem} {p c : Path} {candidates : List Path}

/-- The first of some paths that is a file.  Directories in front of it, and paths to
nothing, are passed over. -/
structure IsFirstFile (fs : FileSystem) (candidates : List Path) (c : Path) : Prop where
  isFile : ∃ a, fs.find c = .ok (.file a)
  first : ∃ passed others, candidates = passed ++ c :: others ∧
    ∀ x ∈ passed, ∀ a, fs.find x ≠ .ok (.file a)

/-- None of some paths is a file. -/
def NoFile (fs : FileSystem) (candidates : List Path) : Prop :=
  ∀ x ∈ candidates, ∀ a, fs.find x ≠ .ok (.file a)

theorem find?_isFile_eq_some : candidates.find? f.isFile = some c ↔ f.IsFirstFile candidates c := by
  have passed (x : Path) : (!f.isFile x) = true ↔ ∀ a, f.find x ≠ .ok (.file a) := by
    rw [Bool.not_eq_true', ← Bool.not_eq_true, isFile_iff, not_exists]
  rw [List.find?_eq_some_iff_append, isFile_iff]
  simp only [passed]
  exact ⟨fun ⟨isFile, first⟩ => ⟨isFile, first⟩, fun h => ⟨h.isFile, h.first⟩⟩

theorem find?_isFile_eq_none : candidates.find? f.isFile = none ↔ f.NoFile candidates := by
  simp only [List.find?_eq_none, isFile_iff, not_exists, NoFile]

/-! ## Records and files -/

/-- The same paths lead to files, and to libraries that load. -/
structure SameLibraries (f g : FileSystem) : Prop where
  isFile : ∀ c, g.isFile c = f.isFile c
  loads : ∀ c, Library.loads g c = Library.loads f c

theorem SameLibraries.refl (f : FileSystem) : SameLibraries f f := ⟨fun _ => rfl, fun _ => rfl⟩

theorem SameLibraries.trans (h : SameLibraries f g) (h' : SameLibraries g k) : SameLibraries f k :=
  ⟨fun c => (h'.isFile c).trans (h.isFile c), fun c => (h'.loads c).trans (h.loads c)⟩

/-- A file at a path that can be written to has octets in it, as it has when it was
written to. -/
def SettledAt (fs : FileSystem) (p : Path) : Prop :=
  ∀ at_ old, fs.openFile p = .ok (at_, old) → ∃ o x, old = some ⟨.octets o, x⟩

/-- A record is in a file of octets, if it is anywhere. -/
theorem settledAt_record (fs : FileSystem) (p : Path) (stamp : String) (r : Log.Record) :
    (fs.record p stamp r).SettledAt p := by
  intro at_ old opens
  rcases record_cases fs p stamp r with ⟨⟨fault, fails⟩, same⟩ | ⟨before, opens', written⟩
  · rw [same, fails] at opens
    cases opens
  · have there := node?_of_openFile opens
    have here := place_of_locate (openFile_of_locate opens).1
    rw [(sameBut_record fs p stamp r).place] at here
    rw [← here, written, node?_set fs (rooted_of_openFile opens')] at there
    cases old with
    | none => cases there
    | some a => exact ⟨_, _, (congrArg some (Node.file.inj (Option.some.inj there))).symm⟩

/-- What a path leads to before and after a record: nothing, two files of octets, or
something else that is the same. -/
theorem SettledAt.find_cases (settled : f.SettledAt p) (stamp : String) (r : Log.Record)
    (c : Path) :
    ((∃ fault, f.find c = .error fault) ∧ ∃ fault, (f.record p stamp r).find c = .error fault) ∨
      ((∃ o x, f.find c = .ok (.file ⟨.octets o, x⟩)) ∧
        ∃ o x, (f.record p stamp r).find c = .ok (.file ⟨.octets o, x⟩)) ∨
      (f.record p stamp r).find c = f.find c := by
  have same := sameBut_record f p stamp r
  rcases record_cases f p stamp r with ⟨-, lost⟩ | ⟨old, opens, written⟩
  · exact .inr (.inr (by rw [lost]))
  · rw [find_eq, find_eq]
    rcases same.locate_cases c with ⟨at_, leads, led⟩ | ⟨⟨fault, fails⟩, fault', fails'⟩
    · rw [leads, led]
      dsimp only
      by_cases here : at_ = f.place p
      · subst here
        obtain ⟨o, x, rfl⟩ := settled _ _ opens
        rw [node?_of_openFile opens, written, node?_set f (rooted_of_openFile opens)]
        exact .inr (.inl ⟨⟨o, x, rfl⟩, _, _, rfl⟩)
      · rw [same.others at_ here]
        exact .inr (.inr rfl)
    · rw [fails, fails']
      exact .inl ⟨⟨fault, rfl⟩, fault', rfl⟩

theorem SettledAt.sameLibraries_record (settled : f.SettledAt p) (stamp : String)
    (r : Log.Record) : SameLibraries f (f.record p stamp r) := by
  constructor
  · intro c
    unfold isFile file?
    rcases settled.find_cases stamp r c with
      ⟨⟨_, nothing⟩, _, nothing'⟩ | ⟨⟨_, _, octets⟩, _, _, octets'⟩ | same
    · rw [nothing, nothing']
    · rw [octets, octets']
      rfl
    · rw [same]
  · intro c
    unfold Library.loads read
    rcases settled.find_cases stamp r c with
      ⟨⟨_, nothing⟩, _, nothing'⟩ | ⟨⟨_, _, octets⟩, _, _, octets'⟩ | same
    · rw [nothing, nothing']
      rfl
    · rw [octets, octets']
      rfl
    · rw [same]

end FileSystem

/-! ## Searches -/

namespace Machine

open FileSystem

variable {m : Machine}

/-- Nothing that a search looks at is changed by messages. -/
def IsSettled (m : Machine) : Prop := ∀ p, m.log.path = some p → m.files.SettledAt p

theorem isSettled_tell (m : Machine) (level : Log.Level) (message : String) :
    (m.tell level message).IsSettled := by
  intro p logs
  rw [log_tell] at logs
  rw [(adds_tell m level message).files, entered, logs]
  exact settledAt_record m.files p _ _

theorem IsSettled.sameLibraries_tell (settled : m.IsSettled) (level : Log.Level)
    (message : String) : SameLibraries m.files (m.tell level message).files := by
  rw [(adds_tell m level message).files, entered]
  cases logs : m.log.path with
  | none => exact .refl _
  | some p => exact (settled p logs).sameLibraries_record _ _

/-- What loading says about a path, by the files as they were. -/
def loading (files : FileSystem) (c : Path) : Except HostError Path :=
  if Library.loads files c then .ok c else .error (.libraryLoad c)

theorem IsSettled.loadLibrary {c : Path} (settled : m.IsSettled) (there : m.files.isFile c = true) :
    (m.loadLibrary c).1 = loading m.files c := by
  have same := settled.sameLibraries_tell .debug ("Loading Python shared library: " ++ c.display)
  unfold Machine.loadLibrary loading
  dsimp only
  rw [there, same.loads]
  cases Library.loads m.files c <;> rfl

/-- A search tells of places without a change of what it looks at. -/
theorem IsSettled.tellAll (settled : m.IsSettled) (level : Log.Level) (text : Path → String)
    (paths : List Path) :
    (paths.foldl (fun m path => m.tell level (text path)) m).IsSettled ∧
      SameLibraries m.files (paths.foldl (fun m path => m.tell level (text path)) m).files := by
  induction paths generalizing m with
  | nil => exact ⟨settled, .refl _⟩
  | cons path paths ih =>
    obtain ⟨after, same⟩ := ih (isSettled_tell m level (text path))
    exact ⟨after, (settled.sameLibraries_tell level (text path)).trans same⟩

/-- The name that a search asks for in vain. -/
theorem nameText_places (i : Installation) :
    (i.places.head?.map Library.nameText).getD "" =
      Installation.libraryName i.version ".so.1.0" := by
  have named : (i.root / "lib" / Installation.libraryName i.version ".so.1.0").fileName? =
      some (Octets.ofText (Installation.libraryName i.version ".so.1.0")) := by
    rw [Path.fileName?_eq_some_iff,
      Installation.components_library _ i.version (by decide)]
    exact List.getLast?_concat
  show Library.nameText _ = _
  rw [Library.nameText, named]
  exact Octets.lossy_ofText _

/-- What a search comes to, by the files as they were. -/
theorem IsSettled.locateLibrary (settled : m.IsSettled) (i : Installation) :
    (m.locateLibrary i).1 =
      match i.places.find? m.files.isFile with
      | some c => loading m.files c
      | none =>
        .error (.libraryNotFound i.root (Installation.libraryName i.version ".so.1.0")) := by
  obtain ⟨after, same⟩ := settled.tellAll .debug
    (fun path => "Checking for library at: " ++ path.display) i.places
  have alike : i.places.find? (i.places.foldl (fun m path =>
      m.tell .debug ("Checking for library at: " ++ path.display)) m).files.isFile =
        i.places.find? m.files.isFile := congrArg (i.places.find? ·) (funext same.isFile)
  unfold Machine.locateLibrary
  rw [Installation.libraryCandidates_eq]
  dsimp only
  rw [alike]
  cases found : i.places.find? m.files.isFile with
  | none => rw [← nameText_places]
  | some c =>
    have there := List.find?_some found
    rw [← same.isFile] at there
    refine (after.loadLibrary there).trans ?_
    unfold loading
    rw [same.loads]

end Machine

end EmbeddedPython
