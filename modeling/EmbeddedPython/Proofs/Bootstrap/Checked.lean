import EmbeddedPython.Proofs.Bootstrap.Starts
import EmbeddedPython.Proofs.Files.Joined
import EmbeddedPython.Shell

/-!
# The files that the bootstrap script runs

The executable and the script are looked for from the working directory of the host,
but the child changes into the root before the system looks for them.  Both mean the
same files exactly if the root, looked for from itself, is itself again
(`Bootstrap.child_runs_checked_iff`): every absolute root is, and `.` is, but
hardly another relative one.  A child in a relative root finds nothing there, or other
files (`Bootstrap.relative_root_is_lost`).
-/

namespace EmbeddedPython.Bootstrap

open FileSystem

variable {fs f : FileSystem} {root q : Path} {at_ x : Location} {i : Installation} {config : Config}

/-- A command that is started over some files means the program and the argument that
were checked over others. -/
def RunsChecked (fs f : FileSystem) (command : Command) : Prop :=
  ∃ inside, Shell.enter f command.directory = .ok inside ∧
    (∃ program, fs.locate command.program = .ok program ∧
      inside.locate command.program = .ok program) ∧
    ∃ argument, fs.locate command.argument = .ok argument ∧
      inside.locate command.argument = .ok argument

/-- A path leads to the same directory from where it leads to. -/
def Repeats (fs : FileSystem) (root : Path) : Prop :=
  ∃ at_, fs.locate root = .ok at_ ∧ (fs.seenFrom at_).locate root = .ok at_

/-- The files on which a command is started are those that were checked, but for the
log file. -/
theorem sameBut_launching (m : Machine) (command : Command) :
    ∃ place, SameBut place m.files (launching m command).files := by
  have adds := Machine.adds_perform m (.tell .debug ("Running: " ++ command.quoted))
  rw [show (launching m command).files = _ from adds.files, Machine.entered]
  cases m.log.path with
  | none => exact ⟨[], .refl ..⟩
  | some p => exact ⟨m.files.place p, sameBut_recordAll ..⟩

theorem enter_eq (f : FileSystem) (directory : Path) :
    Shell.enter f directory =
      match f.locate directory with
      | .error fault => .error fault
      | .ok place =>
        match f.node? place with
        | some .directory => .ok (f.seenFrom place)
        | some (.file _) => .error .notDirectory
        | none => .error .notFound := by
  unfold Shell.enter
  cases f.locate directory with
  | error fault => rfl
  | ok place => rfl

/-- A child starts in the directory that its files have where the path leads. -/
theorem enter_eq_ok {inside : FileSystem} :
    Shell.enter f root = .ok inside ↔
      ∃ at_, f.locate root = .ok at_ ∧ f.node? at_ = some .directory ∧ inside = f.seenFrom at_ := by
  rw [enter_eq]
  cases f.locate root with
  | error fault => simp
  | ok place =>
    cases found : f.node? place with
    | none => simp [found]
    | some node => cases node <;> simp [found, eq_comm]

theorem exists_of_isFile {p : Path} (h : fs.isFile p = true) : ∃ x, fs.locate p = .ok x := by
  obtain ⟨a, found⟩ := isFile_iff.1 h
  rw [find_eq] at found
  split at found
  · cases found
  · next x leads => exact ⟨x, leads⟩

/-! ## Paths below a root -/

/-- A path that goes down by names only. -/
def Descends (q : Path) : Prop :=
  q.isAbsolute = false ∧ ∀ b : Location, q.segments.foldl enter b = b ++ q.segments

/-- The executables of an installation are below its root. -/
theorem executable_cases {executable : Path}
    (found : (Layout.executables root).find? fs.isFile = some executable) :
    ∃ q : Path, executable = root / q ∧ Descends q := by
  have which := List.mem_of_find?_eq_some found
  rw [Layout.executables, List.mem_cons, List.mem_singleton] at which
  rcases which with rfl | rfl
  · exact ⟨Path.ofText "bin/python3", rfl, by decide, fun b => List.append_assoc b _ _⟩
  · exact ⟨Path.ofText "bin/python", rfl, by decide, fun b => List.append_assoc b _ _⟩

/-- A path behind the root leads to the same place from the root, if the root does. -/
theorem locate_seenFrom_join (nonempty : root.octets ≠ []) (leads : fs.locate root = .ok at_)
    (there : fs.locate (root / q) = .ok x) (again : (fs.seenFrom at_).locate root = .ok at_) :
    (fs.seenFrom at_).locate (root / q) = .ok x := by
  cases absolute : q.isAbsolute with
  | true =>
    have whole : root / q = q := if_pos absolute
    rw [whole] at there ⊢
    exact (locate_seenFrom_of_absolute absolute fs at_).trans there
  | false =>
    obtain ⟨usable, b, led, rest⟩ := (locate_join nonempty absolute).1 there
    obtain rfl := Except.ok.inj (leads.symm.trans led)
    exact (locate_join nonempty absolute).2 ⟨usable, at_, again, (follow_seenFrom ..).trans rest⟩

/-- And only then, if the path goes down by names. -/
theorem repeats_of_locate_join (nonempty : root.octets ≠ []) (descends : Descends q)
    (leads : fs.locate root = .ok at_) (there : fs.locate (root / q) = .ok x)
    (inside : (fs.seenFrom at_).locate (root / q) = .ok x) :
    (fs.seenFrom at_).locate root = .ok at_ := by
  obtain ⟨-, b, led, outer⟩ := (locate_join nonempty descends.1).1 there
  obtain rfl := Except.ok.inj (leads.symm.trans led)
  obtain ⟨-, c, led', inner⟩ := (locate_join nonempty descends.1).1 inside
  have same : c ++ q.segments = at_ ++ q.segments := by
    rw [← descends.2, ← descends.2, foldl_enter_of_follow inner, foldl_enter_of_follow outer]
  rw [led', List.append_cancel_right same]

/-- Behind an absolute root everything is the same from everywhere. -/
theorem repeats_of_absolute (absolute : root.isAbsolute = true) (leads : fs.locate root = .ok at_) :
    Repeats fs root :=
  ⟨at_, leads, (locate_seenFrom_of_absolute absolute fs at_).trans leads⟩

/-! ## The child -/

/-- The command for a script and an executable that were found means them exactly if the
root repeats. -/
theorem runsChecked_iff {executable : Path} {place : Location} (same : SameBut place fs f)
    (found : (Layout.executables i.root).find? fs.isFile = some executable)
    (script : fs.isFile (scriptPath i config) = true) :
    RunsChecked fs f (commandOf i config executable) ↔ Repeats fs i.root := by
  obtain ⟨program, programThere⟩ := exists_of_isFile (List.find?_some found)
  obtain ⟨argument, argumentThere⟩ := exists_of_isFile script
  obtain ⟨q, rfl, descends⟩ := executable_cases found
  constructor
  · rintro ⟨inside, enters, ⟨program', leads, led⟩, -⟩
    obtain ⟨at_, rootThere, -, rfl⟩ := enter_eq_ok.1 enters
    obtain rfl := Except.ok.inj (programThere.symm.trans leads)
    have rooted := same.locate.1 rootThere
    have nonempty : i.root.octets ≠ [] := (locate_eq_ok.1 rooted).1.2.1
    exact ⟨at_, rooted, repeats_of_locate_join nonempty descends rooted programThere
      ((same.seenFrom at_).locate.1 led)⟩
  · rintro ⟨at_, rooted, again⟩
    have nonempty : i.root.octets ≠ [] := (locate_eq_ok.1 rooted).1.2.1
    have directory : fs.node? at_ = some .directory := by
      obtain ⟨-, b, led, rest⟩ := (locate_join nonempty descends.1).1 programThere
      obtain rfl := Except.ok.inj (rooted.symm.trans led)
      exact directory_of_segments rest
    exact ⟨f.seenFrom at_,
      enter_eq_ok.2 ⟨at_, same.locate.2 rooted, (same.directories at_).2 directory, rfl⟩,
      ⟨program, programThere, (same.seenFrom at_).locate.2
        (locate_seenFrom_join nonempty rooted programThere again)⟩,
      ⟨argument, argumentThere, (same.seenFrom at_).locate.2
        (locate_seenFrom_join nonempty rooted argumentThere again)⟩⟩

/-- Wherever an executable is found below the root and the script is there, the script is
started with them once.  The child means the same files exactly if the root repeats, as
every absolute root does. -/
theorem child_runs_checked_iff (launch : Launcher) (i : Installation) (config : Config)
    (s : Session) (executable : Path)
    (found : (Layout.executables i.root).find? s.machine.files.isFile = some executable)
    (script : s.machine.files.isFile (scriptPath i config) = true) :
    let command := commandOf i config executable
    let ready := launching s.machine command
    Notes (runScriptWith (Noting.start launch) i config) (runScriptWith (start launch) i config) s
        [(ready, command)] ∧
      (RunsChecked s.machine.files ready.files command ↔ Repeats s.machine.files i.root) ∧
      (i.root.isAbsolute = true → RunsChecked s.machine.files ready.files command) := by
  intro command ready
  obtain ⟨place, same⟩ := sameBut_launching s.machine command
  have checked := runsChecked_iff (f := ready.files) same found script
  have interpreter : s.machine.interpreter? i.root i.series = some executable := by
    rw [Machine.interpreter?, found]
    rfl
  refine ⟨?_, checked, fun absolute => checked.2 ?_⟩
  · have notes := notes_runScript launch i config s
    rw [scriptStarts, interpreter] at notes
    dsimp only at notes
    rwa [script] at notes
  · obtain ⟨q, rfl, descends⟩ := executable_cases found
    obtain ⟨program, programThere⟩ := exists_of_isFile (List.find?_some found)
    have nonempty : i.root.octets ≠ [] := by
      intro empty
      rw [Path.isAbsolute, empty] at absolute
      cases absolute
    obtain ⟨-, at_, rooted, -⟩ := (locate_join nonempty descends.1).1 programThere
    exact repeats_of_absolute absolute rooted

namespace Lost

/-- An installation in the working directory. -/
def files : FileSystem :=
  let file (names : List String) (executable : Bool) : Location × Node :=
    (names.map Octets.ofText, .file ⟨.program [], executable⟩)
  let directory (names : List String) : Location × Node := (names.map Octets.ofText, .directory)
  ⟨[directory ["tmp"], directory ["tmp", "rel"], directory ["tmp", "rel", "bin"],
    file ["tmp", "rel", "bin", "python3"] true, file ["tmp", "rel", "get-pip.py"] false],
    [Octets.ofText "tmp"]⟩

/-- A session in a working directory. -/
def session (current : List String) : Session :=
  ⟨⟨files.seenFrom (current.map Octets.ofText), [], Log.initial, "", ⟨"", "", 0⟩⟩, .initial ""⟩

def installation (root : String) : Installation := ⟨Path.ofText root, Engine.series⟩

def settings (root : String) : Config := .ofRoot (Path.ofText root) none

end Lost

open Lost in
/-- The working directory as the root repeats, so the child means what was checked. -/
theorem working_directory_is_checked :
    let s := session ["tmp", "rel"]
    let command := commandOf (installation ".") (settings ".") (Path.ofText "./bin/python3")
    (Layout.executables (Path.ofText ".")).find? s.machine.files.isFile =
        some (Path.ofText "./bin/python3") ∧
      s.machine.files.isFile (scriptPath (installation ".") (settings ".")) = true ∧
      RunsChecked s.machine.files (launching s.machine command).files command := by
  intro s command
  have found : (Layout.executables (Path.ofText ".")).find? s.machine.files.isFile =
      some (Path.ofText "./bin/python3") := by
    decide +kernel
  have script : s.machine.files.isFile (scriptPath (installation ".") (settings ".")) = true := by
    decide +kernel
  obtain ⟨-, checked, -⟩ := child_runs_checked_iff (fun _ _ => .error .notFound) (installation ".")
    (settings ".") s (Path.ofText "./bin/python3") found script
  exact ⟨found, script, checked.2 ⟨_, rfl, rfl⟩⟩

open Lost in
/-- A child in another relative root finds nothing under the names that were checked. -/
theorem relative_root_is_lost :
    ¬(∀ (i : Installation) (config : Config) (m : Machine) (executable : Path),
        (Layout.executables i.root).find? m.files.isFile = some executable →
        m.files.isFile (scriptPath i config) = true →
        RunsChecked m.files (launching m (commandOf i config executable)).files
          (commandOf i config executable)) := by
  intro checked
  obtain ⟨inside, enters, ⟨program, -, led⟩, -⟩ := checked (installation "rel") (settings "rel")
    (session ["tmp"]).machine (Path.ofText "rel/bin/python3") (by decide +kernel)
    (by decide +kernel)
  obtain rfl : files.seenFrom (["tmp", "rel"].map Octets.ofText) = inside := Except.ok.inj enters
  cases led

end EmbeddedPython.Bootstrap
