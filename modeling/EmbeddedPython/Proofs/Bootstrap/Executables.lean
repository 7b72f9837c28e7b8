import EmbeddedPython.Proofs.Calls.Settings
import EmbeddedPython.Proofs.Files.Absolute
import EmbeddedPython.Proofs.Lifetime.Environment

/-!
# Which executable runs an installation

The executable of an installation is one of two files below its root, or else a command
of its series that is searched for.  With the environment of the installation in force
the search goes through the installation's own directories before it goes through
anything that was inherited (`Machine.searchEntries_of_path`), so there is an order of
all the places (`Machine.Chooses`).

`Machine.interpreter?_eq_iff` says that the first place in that order is taken, and
`Machine.PrefersOwn` sums up what follows.  No call of a host changes the environment,
so this holds for as long as nobody else does (`Machine.own_executable_is_preferred`).
-/

namespace EmbeddedPython

open EmbeddedPython.Path

namespace Installation

/-- The command that runs an interpreter of the series. -/
def command (i : Installation) : Path :=
  Path.ofText ("python" ++ i.series)

variable (i : Installation)

theorem slash_not_mem_command : slash ∉ i.command.octets := by
  show slash ∉ Octets.ofText ("python" ++ i.version.text)
  rw [Octets.ofText_append, List.mem_append, not_or]
  refine ⟨by decide, i.version.not_mem_ofText_text (by decide) fun c same => ?_⟩
  obtain rfl : c = '/' := Char.ext (UInt32.toNat_inj.1 same)
  decide

theorem component?_command : component? i.command.octets = some (.name i.command.octets) := by
  refine component?_of_long ?_
  have long : 3 ≤ (Octets.ofText "python").length := by decide
  show 3 ≤ (Octets.ofText ("python" ++ i.version.text)).length
  rw [Octets.ofText_append, List.length_append]
  omega

/-- The last segment of a place is the command. -/
theorem exists_segments_place (entry : Path) :
    ∃ front, (entry / i.command).segments = front ++ [i.command.octets] := by
  obtain ⟨front, cut⟩ := exists_segments_join entry i.command
  exact ⟨front, cut.trans (congrArg (front ++ ·) (splitAt_of_not_mem i.slash_not_mem_command))⟩

end Installation

namespace Path

/-- Only a path with a tilde in front is expanded. -/
theorem expandTilde_of_plain {p : Path} (home : Option Path)
    (plain : p.components.head? ≠ some (.name tilde)) : p.expandTilde home = p := by
  unfold expandTilde
  split
  · next first more home found =>
    rw [found] at plain
    exact if_neg fun same => plain (congrArg (some ∘ Component.name) same)
  · rfl

end Path

namespace FileSystem

/-- A path leads to a file that may be executed. -/
def IsExecutableFile (fs : FileSystem) (p : Path) : Prop :=
  ∃ f, fs.find p = .ok (.file f) ∧ f.executable = true

theorem isExecutable_iff {fs : FileSystem} {p : Path} :
    fs.isExecutable p = true ↔ fs.IsExecutableFile p := by
  unfold isExecutable file? IsExecutableFile
  rcases fs.find p with fault | (_ | f) <;> simp

end FileSystem

namespace Machine

/-! ## Entries of the search path -/

/-- The place of a command in an entry of the search path. -/
def placeIn (m : Machine) (command entry : Path) : Path :=
  m.absolute (entry.expandTilde m.home? / command)

/-- The first one of some entries with an executable file of a command. -/
structure IsFirstWith (m : Machine) (command : Path) (entries : List Path) (entry : Path) :
    Prop where
  executable : m.files.IsExecutableFile (m.placeIn command entry)
  first : ∃ passed others, entries = passed ++ entry :: others ∧
    ∀ x ∈ passed, ¬m.files.IsExecutableFile (m.placeIn command x)

/-- None of some entries has an executable file of a command. -/
def NoneWith (m : Machine) (command : Path) (entries : List Path) : Prop :=
  ∀ entry ∈ entries, ¬m.files.IsExecutableFile (m.placeIn command entry)

variable {m : Machine} {i : Installation} {command entry : Path} {entries inherited : List Path}
  {found : Option Path}

theorem find?_placeIn_eq_some :
    entries.find? (fun entry => m.files.isExecutable (m.placeIn command entry)) = some entry ↔
      m.IsFirstWith command entries entry := by
  have passed (x : Path) : (!m.files.isExecutable (m.placeIn command x)) = true ↔
      ¬m.files.IsExecutableFile (m.placeIn command x) := by
    rw [Bool.not_eq_true', ← Bool.not_eq_true, FileSystem.isExecutable_iff]
  rw [List.find?_eq_some_iff_append, FileSystem.isExecutable_iff]
  simp only [passed]
  exact ⟨fun ⟨executable, first⟩ => ⟨executable, first⟩, fun h => ⟨h.executable, h.first⟩⟩

theorem find?_placeIn_eq_none :
    entries.find? (fun entry => m.files.isExecutable (m.placeIn command entry)) = none ↔
      m.NoneWith command entries := by
  simp only [List.find?_eq_none, FileSystem.isExecutable_iff, NoneWith]

/-- The environment of an installation is searched from its own directories on. -/
theorem searchEntries_of_path {inherited : List Octets}
    (plain : ∀ entry ∈ i.entries ++ inherited, Plan.separator ∉ entry)
    (path : m.environment? "PATH" =
      some (joinWith Plan.separator (i.entries ++ inherited))) :
    m.searchEntries = Plan.ownEntries i ++ inherited.map Path.mk := by
  have cut : splitAt 0x3A (joinWith Plan.separator (i.entries ++ inherited)) =
      i.entries ++ inherited := splitAt_joinWith (List.cons_ne_nil _ _) plain
  rw [searchEntries, path]
  dsimp only
  rw [cut, List.map_append]
  rfl

/-! ## The order of the places -/

/-- What is taken for the executable of an installation if some entries are searched
behind its own ones: a file below the root, or else a command of the series in the
first entry that has one, or else nothing. -/
inductive Chooses (m : Machine) (i : Installation) (inherited : List Path) : Option Path → Prop
  | root {c : Path} (first : m.files.IsFirstFile (Layout.executables i.root) c) :
      Chooses m i inherited (some c)
  | own {entry : Path} (noFile : m.files.NoFile (Layout.executables i.root))
      (first : m.IsFirstWith i.command (Plan.ownEntries i) entry) :
      Chooses m i inherited (some (m.placeIn i.command entry))
  | inherited {entry : Path} (noFile : m.files.NoFile (Layout.executables i.root))
      (noOwn : m.NoneWith i.command (Plan.ownEntries i))
      (first : m.IsFirstWith i.command inherited entry) :
      Chooses m i inherited (some (m.placeIn i.command entry))
  | nothing (noFile : m.files.NoFile (Layout.executables i.root))
      (noOwn : m.NoneWith i.command (Plan.ownEntries i))
      (noInherited : m.NoneWith i.command inherited) : Chooses m i inherited none

theorem command?_eq (m : Machine) (i : Installation) :
    m.command? i.command = (m.searchEntries.find? fun entry =>
      m.files.isExecutable (m.placeIn i.command entry)).map (m.placeIn i.command) := by
  have single : i.command.components = [.name i.command.octets] :=
    (components_of_name i.slash_not_mem_command i.component?_command).2.1
  rw [command?, commandCandidates, single, if_neg (by simp)]
  exact List.find?_map ..

/-- The executable of an installation is the first one in the order of the places. -/
theorem interpreter?_eq_iff (searched : m.searchEntries = Plan.ownEntries i ++ inherited) :
    m.interpreter? i.root i.series = found ↔ m.Chooses i inherited found := by
  have whole : m.interpreter? i.root i.series =
      ((Layout.executables i.root).find? m.files.isFile).or (m.command? i.command) := rfl
  rw [whole, command?_eq, searched, List.find?_append]
  constructor
  · rintro rfl
    cases below : (Layout.executables i.root).find? m.files.isFile with
    | some c => exact .root (FileSystem.find?_isFile_eq_some.1 below)
    | none =>
      have noFile := FileSystem.find?_isFile_eq_none.1 below
      cases own : (Plan.ownEntries i).find?
          fun entry => m.files.isExecutable (m.placeIn i.command entry) with
      | some entry => exact .own noFile (find?_placeIn_eq_some.1 own)
      | none =>
        have noOwn := find?_placeIn_eq_none.1 own
        cases others : inherited.find?
            fun entry => m.files.isExecutable (m.placeIn i.command entry) with
        | some entry => exact .inherited noFile noOwn (find?_placeIn_eq_some.1 others)
        | none => exact .nothing noFile noOwn (find?_placeIn_eq_none.1 others)
  · rintro (first | ⟨noFile, first⟩ | ⟨noFile, noOwn, first⟩ | ⟨noFile, noOwn, noInherited⟩)
    · rw [FileSystem.find?_isFile_eq_some.2 first, Option.some_or]
    · rw [FileSystem.find?_isFile_eq_none.2 noFile, find?_placeIn_eq_some.2 first]
      rfl
    · rw [FileSystem.find?_isFile_eq_none.2 noFile, find?_placeIn_eq_none.2 noOwn,
        find?_placeIn_eq_some.2 first]
      rfl
    · rw [FileSystem.find?_isFile_eq_none.2 noFile, find?_placeIn_eq_none.2 noOwn,
        find?_placeIn_eq_none.2 noInherited]
      rfl

/-! ## Places in entries -/

/-- The place in an entry is an absolute path for the command below the entry, unless
the entry has a tilde in front. -/
theorem placeIn_of_plain (plain : entry.components.head? ≠ some (.name tilde)) :
    m.placeIn command entry = m.absolute (entry / command) := by
  rw [placeIn, expandTilde_of_plain _ plain]

/-- The same is found at the place and at the command below the entry. -/
theorem find_placeIn_eq_ok (plain : entry.components.head? ≠ some (.name tilde))
    (stands : m.files.Stands)
    (short : (entry / i.command).octets.length < FileSystem.longestPath)
    (shortPlace : (m.placeIn i.command entry).octets.length < FileSystem.longestPath)
    {node : Node} :
    m.files.find (m.placeIn i.command entry) = .ok node ↔
      m.files.find (entry / i.command) = .ok node := by
  obtain ⟨front, cut⟩ := i.exists_segments_place entry
  have busy : isIdle i.command.octets = false := by
    rw [← Bool.not_eq_true]
    intro idle
    cases (component?_of_idle idle).symm.trans i.component?_command
  rw [placeIn_of_plain plain] at shortPlace ⊢
  exact find_absolute_eq_ok stands cut busy short shortPlace

/-! ## Preference -/

/-- The executable of an installation is looked for in the installation first. -/
structure PrefersOwn (m : Machine) (i : Installation) (inherited : List Path) : Prop where
  chosen : ∀ found, m.interpreter? i.root i.series = found ↔ m.Chooses i inherited found
  /-- Nothing is found just if there is nothing to be found. -/
  nothing : m.interpreter? i.root i.series = none ↔
    m.files.NoFile (Layout.executables i.root) ∧
      m.NoneWith i.command (Plan.ownEntries i ++ inherited)
  /-- If the installation has an executable, nothing that was inherited is found. -/
  own : (∃ c ∈ Layout.executables i.root, m.files.isFile c = true) ∨
      (∃ entry ∈ Plan.ownEntries i, m.files.IsExecutableFile (m.placeIn i.command entry)) →
    ∃ c, m.interpreter? i.root i.series = some c ∧
      (c ∈ Layout.executables i.root ∨ ∃ entry ∈ Plan.ownEntries i, c = m.placeIn i.command entry)
  /-- What is found in an entry has an absolute path, and it is the command below the
  entry. -/
  place : ∀ entry : Path, entry.components.head? ≠ some (.name tilde) →
    m.placeIn i.command entry = m.absolute (entry / i.command) ∧
      (m.placeIn i.command entry).isAbsolute = true ∧
      (m.files.Stands → (entry / i.command).octets.length < FileSystem.longestPath →
        (m.placeIn i.command entry).octets.length < FileSystem.longestPath →
        ∀ node, m.files.find (m.placeIn i.command entry) = .ok node ↔
          m.files.find (entry / i.command) = .ok node)

theorem Chooses.none_iff : m.Chooses i inherited none ↔
    m.files.NoFile (Layout.executables i.root) ∧
      m.NoneWith i.command (Plan.ownEntries i ++ inherited) := by
  constructor
  · rintro (_ | _ | _ | ⟨noFile, noOwn, noInherited⟩)
    refine ⟨noFile, fun entry mem => ?_⟩
    rcases List.mem_append.1 mem with mem | mem
    · exact noOwn entry mem
    · exact noInherited entry mem
  · rintro ⟨noFile, none⟩
    exact .nothing noFile (fun entry mem => none entry (List.mem_append_left _ mem))
      fun entry mem => none entry (List.mem_append_right _ mem)

/-- What is chosen is at a place of the installation, or the installation has none. -/
theorem Chooses.own_or_none (h : m.Chooses i inherited found) :
    (∃ c, found = some c ∧
      (c ∈ Layout.executables i.root ∨
        ∃ entry ∈ Plan.ownEntries i, c = m.placeIn i.command entry)) ∨
      m.files.NoFile (Layout.executables i.root) ∧ m.NoneWith i.command (Plan.ownEntries i) := by
  cases h with
  | root first =>
    obtain ⟨passed, others, same, -⟩ := first.first
    exact .inl ⟨_, rfl, .inl (same ▸ List.mem_append_right _ List.mem_cons_self)⟩
  | @own entry _ first =>
    obtain ⟨passed, others, same, -⟩ := first.first
    have mem : entry ∈ Plan.ownEntries i :=
      same ▸ List.mem_append_right _ List.mem_cons_self
    exact .inl ⟨_, rfl, .inr ⟨entry, mem, rfl⟩⟩
  | inherited noFile noOwn _ => exact .inr ⟨noFile, noOwn⟩
  | nothing noFile noOwn _ => exact .inr ⟨noFile, noOwn⟩

theorem prefersOwn_of_searchEntries
    (searched : m.searchEntries = Plan.ownEntries i ++ inherited) : m.PrefersOwn i inherited where
  chosen _ := interpreter?_eq_iff searched
  nothing := (interpreter?_eq_iff searched).trans Chooses.none_iff
  own has := by
    rcases ((interpreter?_eq_iff searched).1 rfl).own_or_none with own | ⟨noFile, noOwn⟩
    · exact own
    · rcases has with ⟨c, mem, file⟩ | ⟨entry, mem, executable⟩
      · obtain ⟨a, file⟩ := FileSystem.isFile_iff.1 file
        exact absurd file (noFile c mem a)
      · exact absurd executable (noOwn entry mem)
  place entry plain :=
    ⟨placeIn_of_plain plain, isAbsolute_absolute m _, fun stands short shortPlace _ =>
      find_placeIn_eq_ok plain stands short shortPlace⟩

/-- With the plan of an installation in force, whatever search path was inherited and
whatever the files are, the installation's own executable goes first.  Calls of hosts
change nothing about that. -/
theorem own_executable_is_preferred {before : Machine} {plan : Plan}
    (planned : before.planFor i = .ok plan) {p : Embedding}
    (kept : p.session.machine.environment? "PATH" = (before.install plan).environment? "PATH")
    (ms : List SearchPath.Made) :
    (SearchPath.afterAll ms p).session.machine.PrefersOwn i
      ((Plan.inheritedEntries (before.environment? "PATH")).map Path.mk) := by
  have plain : Plan.separator ∉ i.root.octets := by
    intro bad
    cases (Plan.ofTarget_of_mem (before.environment? "PATH") bad).symm.trans planned
  have entries : ∀ entry ∈ i.entries ++ Plan.inheritedEntries (before.environment? "PATH"),
      Plan.separator ∉ entry := by
    intro entry mem
    rcases List.mem_append.1 mem with mem | mem
    · exact i.not_mem_entries plain mem
    · exact Plan.not_mem_inheritedEntries mem
  have path : plan.path = joinWith Plan.separator
      (i.entries ++ Plan.inheritedEntries (before.environment? "PATH")) :=
    congrArg Plan.path (Except.ok.inj (planned.symm.trans (Plan.ofTarget_of_not_mem _ plain)))
  have set : (before.install plan).environment? "PATH" = some plan.path :=
    (List.cons.inj (before.installed_install plan)).1
  have unchanged : (SearchPath.afterAll ms p).session.machine.environment? "PATH" =
      p.session.machine.environment? "PATH" :=
    congrArg (fun t => t.environment.lookup "PATH") (SearchPath.settings_afterAll ms p)
  refine prefersOwn_of_searchEntries (searchEntries_of_path entries ?_)
  rw [unchanged, kept, set, path]

namespace Crowded

/-- A file with nothing in it. -/
def file (executable : Bool) : Node := .file ⟨.octets [], executable⟩

/-- Where names lead to. -/
def location (names : List String) : Location := names.map Octets.ofText

/-- A root in the working directory, where directories and a file that may not be
executed are in the way, and two other installations. -/
def files : FileSystem :=
  ⟨[(location ["w"], .directory), (location ["w", "python3.11"], file true),
    (location ["w", "o"], .directory), (location ["w", "o", "python3.11"], file true),
    (location ["w", "r"], .directory), (location ["w", "r", "python3.11"], file false),
    (location ["w", "r", "bin"], .directory), (location ["w", "r", "bin", "python3"], .directory),
    (location ["w", "r", "bin", "python3.11"], .directory),
    (location ["w", "r", "lib"], .directory),
    (location ["w", "r", "lib", "python3.11"], .directory),
    (location ["w", "r", "lib", "python3.11", "site-packages"], .directory),
    (location ["w", "r", "lib", "python3.11", "site-packages", "python3.11"], file true)],
    location ["w"]⟩

/-- The entries that are inherited are an empty one, a relative one and its absolute
path. -/
def machine : Machine :=
  ⟨files, [("PATH", Octets.ofText ":o:/w/o")], Log.initial, "", ⟨"", "", 0⟩⟩

def installation : Installation := ⟨Path.ofText "r", Engine.series⟩

def plan : Plan :=
  ⟨Octets.ofText "r:r/bin:r/lib/python3.11/site-packages::o:/w/o", Path.ofText "r",
    Path.ofText "r/lib/python3.11/site-packages"⟩

/-- A process with the plan in force and an interpreter. -/
def process : Embedding :=
  { Embedding.start (machine.install plan) "" with
    initialized := some ⟨Engine.series, ⟨[]⟩⟩ }

def host : Host := ⟨installation, .ofRoot installation.root none, none⟩

def calls : List SearchPath.Made :=
  [⟨host, false, .setPath "o"⟩, ⟨host, true, .refreshImports⟩, ⟨host, false, .searchPath⟩]

end Crowded

open Crowded in
/-- The last place of the installation goes before every place that was inherited. -/
theorem own_executable_behind_directories :
    machine.planFor installation = .ok plan ∧
      process.session.machine.environment? "PATH" =
        (machine.install plan).environment? "PATH" ∧
      (SearchPath.afterAll calls process).session.machine.Chooses installation
        [⟨[]⟩, Path.ofText "o", Path.ofText "/w/o"]
        (some (Path.ofText "/w/r/lib/python3.11/site-packages/python3.11")) := by
  have planned : machine.planFor installation = .ok plan := by decide +kernel
  have entries : (Plan.inheritedEntries (machine.environment? "PATH")).map Path.mk =
      [⟨[]⟩, Path.ofText "o", Path.ofText "/w/o"] := by decide +kernel
  have found : (SearchPath.afterAll calls process).session.machine.interpreter?
      installation.root installation.series =
        some (Path.ofText "/w/r/lib/python3.11/site-packages/python3.11") := by decide +kernel
  refine ⟨planned, rfl, ?_⟩
  rw [← entries]
  exact ((own_executable_is_preferred planned (p := process) rfl calls).chosen _).1 found

end Machine

end EmbeddedPython
