import EmbeddedPython.Host
import EmbeddedPython.Proofs.Files.Alike
import EmbeddedPython.Proofs.Files.Components
import EmbeddedPython.Proofs.Text.Boundaries
import EmbeddedPython.Script

/-!
# Scripts taken apart

A text names a script if it ends in `.py` and something is in front of that in its last
component.  Then the module has this part for its name, and the directory and the name
together are the script again (`Script.scripts_are_taken_apart`).

A tilde in front stands for the home directory.  What is behind it and its slash leads
on from there, unless it starts with a slash itself: then it is an absolute path, and the
home directory is no part of the script (`Script.files_behind_tilde`).
-/

namespace EmbeddedPython

namespace Octets

/-- The stretches of a text between separators that are ASCII are texts. -/
theorem exists_text_of_mem_splitAt {separator : UInt8} (ascii : separator < 0x80) {cs : List Char}
    {segment : Octets} (mem : segment ∈ Path.splitAt separator (cs.flatMap encodeChar)) :
    ∃ ds : List Char, segment = ds.flatMap encodeChar := by
  induction cs generalizing segment with
  | nil => exact ⟨[], List.mem_singleton.1 mem⟩
  | cons c cs ih =>
    rw [List.flatMap_cons] at mem
    by_cases same : separator ∈ encodeChar c
    · have number := (mem_encodeChar_iff ascii).1 same
      have one : encodeChar c = [separator] := by
        rw [encodeChar_of_ascii (number ▸ UInt8.lt_iff_toNat_lt.1 ascii),
          octet_of_toNat number.symm]
      rw [one, List.singleton_append, Path.splitAt_cons_self] at mem
      rcases List.mem_cons.1 mem with rfl | mem
      · exact ⟨[], rfl⟩
      · exact ih mem
    · obtain ⟨first, more, cut⟩ :=
        List.exists_cons_of_ne_nil (Path.splitAt_ne_nil separator (cs.flatMap encodeChar))
      rw [Path.splitAt_append_left same cut] at mem
      rw [cut] at ih
      rcases List.mem_cons.1 mem with rfl | mem
      · obtain ⟨ds, rfl⟩ := ih List.mem_cons_self
        exact ⟨c :: ds, rfl⟩
      · exact ih (List.mem_cons_of_mem _ mem)

theorem ofText_eq_nil_iff {s : String} : ofText s = [] ↔ s = "" := by
  constructor
  · intro empty
    rw [← lossy_ofText s, empty]
    exact lossy_ofText ""
  · rintro rfl
    rfl

theorem ofText_ofList (cs : List Char) : ofText (String.ofList cs) = cs.flatMap encodeChar := by
  rw [ofText, String.toList_ofList]

end Octets

namespace Script

open FileSystem EmbeddedPython.Path
open Octets (ofText_eq_nil_iff)

variable {home : Option Path} {path : String} {file : Path}

/-! ## Names with the ending of scripts -/

theorem append_scriptEnding_ne (stem : Octets) {short : Octets} (le : short.length ≤ 2) :
    stem ++ scriptEnding ≠ short := by
  rintro rfl
  rw [List.length_append] at le
  exact absurd (Nat.le_trans (Nat.le_add_left _ _) le) (by decide)

theorem component?_script (stem : Octets) :
    component? (stem ++ scriptEnding) = some (.name (stem ++ scriptEnding)) :=
  component?_of_long (by rw [List.length_append]; exact Nat.le_add_left 3 _)

/-- The last dot of a script's name is the one of the ending, if anything is in front of
it. -/
theorem cutName_script {stem : Octets} (nonempty : stem ≠ []) :
    cutName (stem ++ scriptEnding) = (stem, some (Octets.ofText "py")) := by
  have cut : Path.splitAt dot (stem ++ scriptEnding) =
      Path.splitAt dot stem ++ [Octets.ofText "py"] := splitAt_append_separator stem _
  unfold cutName
  dsimp only
  rw [if_neg (append_scriptEnding_ne stem (by decide)), cut, List.dropLast_concat,
    joinWith_splitAt, List.getLast?_concat]
  simp [splitAt_ne_nil, nonempty]

/-- Nothing in front of the ending is a name without an ending. -/
theorem cutName_ending : cutName scriptEnding = (scriptEnding, none) := by decide

/-- What is made of a path whose last segment has the ending of scripts. -/
theorem ofFile?_of_segments {front : List Octets} {stem : Octets}
    (cut : file.segments = front ++ [stem ++ scriptEnding]) :
    ofFile? file =
      if stem = [] then none
      else some ⟨file, file.parent?.getD ⟨[]⟩, Octets.lossy stem⟩ := by
  have named := fileName?_of_segments cut (component?_script stem)
  unfold ofFile? extension? stem?
  rw [named, Option.bind_some, Option.map_some]
  by_cases empty : stem = []
  · rw [empty, List.nil_append, cutName_ending, if_pos rfl]
  · rw [cutName_script empty, if_neg empty]
    rfl

/-! ## Texts with the ending of scripts -/

/-- The last segment of a text with the ending of scripts. -/
theorem segments_of_ending {cs : List Char} (ends : ending <:+ cs) : ∃ front stem,
    (⟨cs.flatMap Octets.encodeChar⟩ : Path).segments =
      front ++ [Octets.ofText stem ++ scriptEnding] := by
  obtain ⟨first, rfl⟩ := ends
  have plain : slash ∉ scriptEnding := by decide
  obtain ⟨front, last, cut, longer⟩ :=
    splitAt_append (first.flatMap Octets.encodeChar) plain
  obtain ⟨ds, rfl⟩ := Octets.exists_text_of_mem_splitAt (by decide)
    (cut ▸ List.mem_append_right _ List.mem_cons_self)
  refine ⟨front, String.ofList ds, ?_⟩
  rw [Octets.ofText_ofList, segments, List.flatMap_append]
  exact longer

theorem expandHome_cases (home : Option Path) (path : String) :
    (∃ rest directory, behindTilde? path.toList = some rest ∧ home = some directory ∧
        expandHome home path = directory / String.ofList rest) ∨
      expandHome home path = Path.ofText path := by
  unfold expandHome
  split
  · next rest directory behind => exact .inl ⟨_, _, behind, rfl, rfl⟩
  · exact .inr rfl

/-- What is behind a tilde keeps the ending. -/
theorem ending_of_behindTilde? {cs rest : List Char} (ends : ending <:+ cs)
    (behind : behindTilde? cs = some rest) : ending <:+ rest := by
  have later {c : Char} (other : c ≠ '.') {cs : List Char} (ends : ending <:+ c :: cs) :
      ending <:+ cs := by
    rcases List.suffix_cons_iff.1 ends with same | ends
    · exact absurd (List.cons.inj same).1.symm other
    · exact ends
  unfold behindTilde? at behind
  split at behind
  · exact absurd ends (by decide)
  · obtain rfl := Option.some.inj behind
    exact later (by decide) (later (by decide) ends)
  · obtain rfl := Option.some.inj behind
    exact later (by decide) (later (by decide) ends)
  · cases behind

/-- The last segment of an expanded text with the ending of scripts. -/
theorem segments_expandHome (home : Option Path) (ends : ending <:+ path.toList) :
    ∃ front stem, (expandHome home path).segments =
      front ++ [Octets.ofText stem ++ scriptEnding] := by
  rcases expandHome_cases home path with ⟨rest, directory, behind, -, expanded⟩ | expanded
  · obtain ⟨front, stem, cut⟩ := segments_of_ending (ending_of_behindTilde? ends behind)
    obtain ⟨before, joined⟩ := exists_segments_join directory (Path.ofText (String.ofList rest))
    refine ⟨before ++ front, stem, ?_⟩
    rw [expanded]
    refine joined.trans ?_
    rw [Path.ofText, Octets.ofText_ofList, cut, List.append_assoc]
  · obtain ⟨front, stem, cut⟩ := segments_of_ending ends
    exact ⟨front, stem, by rw [expanded]; exact cut⟩

/-- What a text with the ending of scripts names. -/
theorem ofPath_of_segments {stem : String} {front : List Octets} (ends : ending <:+ path.toList)
    (cut : (expandHome home path).segments = front ++ [Octets.ofText stem ++ scriptEnding]) :
    ofPath home path =
      if stem = "" then .error (.noModule path)
      else .ok ⟨expandHome home path, (expandHome home path).parent?.getD ⟨[]⟩, stem⟩ := by
  have some : ¬path.toList.isEmpty = true := by
    intro empty
    rw [List.isEmpty_iff.1 empty] at ends
    exact absurd ends (by decide)
  have listed : ¬(!ending.isSuffixOf path.toList) = true := by
    simpa [List.isSuffixOf_iff_suffix] using ends
  unfold ofPath
  rw [if_neg some, if_neg listed, ofFile?_of_segments cut, Octets.lossy_ofText]
  by_cases empty : stem = ""
  · rw [if_pos (ofText_eq_nil_iff.2 empty), if_pos empty]
  · rw [if_neg (mt ofText_eq_nil_iff.1 empty), if_neg empty]

theorem ofPath_eq_ok {script : Script} (front : List Octets) (ends : ending <:+ path.toList)
    (cut : (expandHome home path).segments =
      front ++ [Octets.ofText script.moduleName ++ scriptEnding])
    (nonempty : script.moduleName ≠ "")
    (made : script = ⟨expandHome home path, (expandHome home path).parent?.getD ⟨[]⟩,
      script.moduleName⟩) : ofPath home path = .ok script := by
  rw [ofPath_of_segments ends cut, if_neg nonempty, ← made]

/-- A text without the ending of scripts names none. -/
theorem ofPath_of_not_ending (home : Option Path) (other : ¬ending <:+ path.toList) :
    ∃ fault, ofPath home path = .error fault := by
  unfold ofPath
  split
  · exact ⟨_, rfl⟩
  · have unlisted : (!ending.isSuffixOf path.toList) = true := by
      rwa [Bool.not_eq_true', ← Bool.not_eq_true, List.isSuffixOf_iff_suffix]
    rw [if_pos unlisted]
    exact ⟨_, rfl⟩

/-- What a text names that names a script. -/
theorem exists_stem {script : Script} (found : ofPath home path = .ok script) :
    ending <:+ path.toList ∧ ∃ stem, stem ≠ "" ∧
      (expandHome home path).fileName? = some (Octets.ofText (stem ++ ".py")) ∧
      script = ⟨expandHome home path, (expandHome home path).parent?.getD ⟨[]⟩, stem⟩ := by
  by_cases ends : ending <:+ path.toList
  · obtain ⟨front, stem, cut⟩ := segments_expandHome home ends
    rw [ofPath_of_segments ends cut] at found
    split at found
    · cases found
    · next nonempty =>
      refine ⟨ends, stem, nonempty, ?_, (Except.ok.inj found).symm⟩
      rw [Octets.ofText_append]
      exact fileName?_of_segments cut (component?_script _)
  · obtain ⟨fault, refused⟩ := ofPath_of_not_ending home ends
    rw [refused] at found
    cases found

/-- A script has a name. -/
theorem isEmpty_moduleName {script : Script} (accepted : ofPath home path = .ok script) :
    script.moduleName.isEmpty = false := by
  obtain ⟨-, stem, nonempty, -, rfl⟩ := exists_stem accepted
  rwa [← Bool.not_eq_true, String.isEmpty_iff]

/-! ## Taking apart and putting together -/

/-- A script that its directory and the name of its module make up. -/
structure Recombines (script : Script) : Prop where
  named : script.moduleName ≠ ""
  /-- The last component of the file is the name of the module with the ending. -/
  last : script.file.components.getLast? =
    some (.name (Octets.ofText (script.moduleName ++ ".py")))
  /-- Behind the directory it leads to the file, as the components tell it. -/
  joined : (script.directory / (script.moduleName ++ ".py")).components = script.file.components
  /-- The search path gets the text of the directory if there is one. -/
  entry : ∀ text, script.directory = Path.ofText text → script.searchEntry = text

theorem recombines_of_fileName? {stem : String} (nonempty : stem ≠ "")
    (named : file.fileName? = some (Octets.ofText (stem ++ ".py"))) :
    Recombines ⟨file, file.parent?.getD ⟨[]⟩, stem⟩ where
  named := nonempty
  last := fileName?_eq_some_iff.1 named
  joined := components_parent_join named
  entry text same := by
    show Path.display _ = text
    rw [same]
    exact Octets.lossy_ofText text

/-- What is promised of a text that may name a script. -/
structure IsTakenApart (home : Option Path) (path : String) : Prop where
  /-- A script is named just by a text that ends in `.py`, if the last component of the
  path is longer than that. -/
  accepted : (∃ script, ofPath home path = .ok script) ↔ (∃ front, path = front ++ ".py") ∧
    ∃ last, (expandHome home path).components.getLast? = some last ∧
      (Octets.ofText ".py").length < last.octets.length
  /-- The script is the path that the text stands for, taken apart. -/
  recombines : ∀ script, ofPath home path = .ok script →
    script.file = expandHome home path ∧ Recombines script
  /-- Any other text is a fault of the configuration, and nothing changes. -/
  rejected : ∀ (held : Bool) (p : Embedding), p.session.machine.home? = home →
    (∀ script, ofPath home path ≠ .ok script) →
      ∃ fault, (Host.scriptAt path).run held p =
        (.error (.error (.configuration (.script fault))), p)

theorem exists_front_iff : (∃ front, path = front ++ ".py") ↔ ending <:+ path.toList := by
  constructor
  · rintro ⟨front, rfl⟩
    exact ⟨front.toList, String.toList_append.symm⟩
  · rintro ⟨front, whole⟩
    refine ⟨String.ofList front, String.toList_inj.1 ?_⟩
    rw [← whole, String.toList_append, String.toList_ofList]
    rfl

/-- The script at a path is looked for in the home directory of the process. -/
theorem run_scriptAt (path : String) (held : Bool) (p : Embedding) :
    (Host.scriptAt path).run held p =
      match ofPath p.session.machine.home? path with
      | .ok script => (.ok script, p)
      | .error fault => (.error (.error (.configuration (.script fault))), p) := by
  show (Op.ofExcept ((ofPath p.session.machine.home? path).mapError fun fault =>
    HostError.configuration (.script fault))).run held p = _
  cases ofPath p.session.machine.home? path <;> rfl

/-- A text that names a script ends as one, with something in front of the ending in its
last component. -/
theorem exists_script_iff (ends : ending <:+ path.toList) {front : List Octets} {stem : String}
    (cut : (expandHome home path).segments = front ++ [Octets.ofText stem ++ scriptEnding]) :
    (∃ script, ofPath home path = .ok script) ↔
      ∃ last, (expandHome home path).components.getLast? = some last ∧
        (Octets.ofText ".py").length < last.octets.length := by
  have last := fileName?_eq_some_iff.1 (fileName?_of_segments cut (component?_script _))
  rw [last, ofPath_of_segments ends cut]
  by_cases empty : stem = ""
  · rw [if_pos empty, empty]
    simp [Component.octets, scriptEnding, Octets.ofText]
  · have longer : 0 < (Octets.ofText stem).length :=
      List.length_pos_iff.2 (mt ofText_eq_nil_iff.1 empty)
    rw [if_neg empty]
    refine iff_of_true ⟨_, rfl⟩ ⟨_, rfl, ?_⟩
    rw [Component.octets, List.length_append]
    exact Nat.lt_add_of_pos_left longer

/-- A text names a script or not, and a script is its directory and its module. -/
theorem scripts_are_taken_apart (home : Option Path) (path : String) :
    IsTakenApart home path where
  accepted := by
    rw [exists_front_iff]
    by_cases ends : ending <:+ path.toList
    · obtain ⟨front, stem, cut⟩ := segments_expandHome home ends
      rw [exists_script_iff ends cut]
      exact (and_iff_right ends).symm
    · obtain ⟨fault, refused⟩ := ofPath_of_not_ending home ends
      simp [refused, ends]
  recombines script found := by
    obtain ⟨-, stem, nonempty, named, rfl⟩ := exists_stem found
    exact ⟨rfl, recombines_of_fileName? nonempty named⟩
  rejected held p same refused := by
    rw [run_scriptAt, same]
    cases found : ofPath home path with
    | ok script => exact absurd found (refused script)
    | error fault => exact ⟨fault, rfl⟩

/-! ## Below the home directory -/

/-- A file that is below a directory as the components tell it, where the rest of them
are those of another path but for `.`. -/
def LeadsTo (directory rest file : Path) : Prop :=
  ∃ tail, file.components = directory.components ++ tail ∧
    tail.filter (· ≠ .current) = rest.below

/-- A path behind a directory leads on from there, unless it is absolute. -/
theorem leadsTo_join_iff (directory rest : Path) :
    LeadsTo directory rest (directory / rest) ↔
      directory.octets = [] ∨ rest.isAbsolute = false := by
  constructor
  · rintro ⟨tail, whole, same⟩
    cases absolute : rest.isAbsolute with
    | false => exact .inr rfl
    | true =>
      rw [join_of_absolute directory absolute] at whole
      rw [below_of_absolute absolute, whole] at same
      have longer := congrArg List.length same
      have kept := List.length_filter_le (fun c => decide (c ≠ Component.current)) tail
      rw [List.length_append] at longer
      exact .inl (components_eq_nil_iff.1 (List.length_eq_zero_iff.1 (by omega)))
  · by_cases empty : directory.octets = []
    · obtain rfl : directory = ⟨[]⟩ := congrArg Path.mk empty
      exact fun _ => ⟨rest.components, by rw [join_nil]; rfl, rfl⟩
    · rw [or_iff_right empty]
      intro relative
      refine ⟨rest.below, components_join empty relative, ?_⟩
      rw [below, List.filter_filter]
      simp

/-- The text behind the tilde for the home directory. -/
def IsBehindTilde (path rest : String) : Prop :=
  path = "~/" ++ rest ∨ path = "~\\" ++ rest

theorem behindTilde?_of_isBehindTilde {rest : String} (h : IsBehindTilde path rest) :
    behindTilde? path.toList = some rest.toList := by
  rcases h with rfl | rfl <;> rw [String.toList_append] <;> rfl

theorem expandHome_of_isBehindTilde (directory : Path) {rest : String}
    (behind : IsBehindTilde path rest) :
    expandHome (some directory) path = directory / Path.ofText rest := by
  unfold expandHome
  rw [behindTilde?_of_isBehindTilde behind]
  dsimp only
  rw [String.ofList_toList]
  rfl

/-- Any other text is used as it is, unless it is the tilde alone. -/
theorem expandHome_of_other (home : Option Path) (other : ∀ rest, ¬IsBehindTilde path rest)
    (several : path ≠ "~") : expandHome home path = Path.ofText path := by
  rcases expandHome_cases home path with ⟨rest, directory, behind, -, -⟩ | same
  · have whole : path.toList = ['~'] ∨ path.toList = '~' :: '/' :: rest ∨
        path.toList = '~' :: '\\' :: rest := by
      unfold behindTilde? at behind
      split at behind
      · next same => exact .inl same
      · next same => exact .inr (.inl (Option.some.inj behind ▸ same))
      · next same => exact .inr (.inr (Option.some.inj behind ▸ same))
      · cases behind
    have text {t : String} (same : path.toList = t.toList ++ rest) :
        path = t ++ String.ofList rest := by
      rw [← String.toList_inj, same, String.toList_append, String.toList_ofList]
    rcases whole with same | same | same
    · exact absurd (String.toList_inj.1 same) several
    · exact absurd (.inl (text same)) (other (String.ofList rest))
    · exact absurd (.inr (text same)) (other (String.ofList rest))
  · exact same

/-- What is promised of the file of a script where there is a home directory. -/
structure StaysBelow (directory : Path) (path : String) (file : Path) : Prop where
  /-- What is behind a tilde leads on from the home directory, unless it is absolute: then
  it is the file. -/
  tilde : ∀ rest, IsBehindTilde path rest →
    (LeadsTo directory (Path.ofText rest) file ↔
        directory.octets = [] ∨ (Path.ofText rest).isAbsolute = false) ∧
      ((Path.ofText rest).isAbsolute = true → file = Path.ofText rest)
  /-- Any other text is the file as it is, wherever there are more tildes in it. -/
  other : (∀ rest, ¬IsBehindTilde path rest) → file = Path.ofText path

/-- A script behind a tilde is below the home directory, unless what is behind the tilde
starts with a slash of its own. -/
theorem files_behind_tilde {directory : Path} {path : String} {script : Script}
    (accepted : ofPath (some directory) path = .ok script) :
    StaysBelow directory path script.file := by
  obtain ⟨ends, stem, -, -, rfl⟩ := exists_stem accepted
  refine ⟨fun rest behind => ?_, fun other => expandHome_of_other _ other ?_⟩
  · rw [expandHome_of_isBehindTilde directory behind]
    exact ⟨leadsTo_join_iff _ _, join_of_absolute directory⟩
  · rintro rfl
    exact absurd ends (by decide)

/-- A script in the home directory, with idle segments on the way. -/
theorem nested_script_stays_below :
    ofPath (some (Path.ofText "/home/u")) "~/./a//b.c/x.py" =
        .ok ⟨Path.ofText "/home/u/./a//b.c/x.py", Path.ofText "/home/u/./a//b.c", "x"⟩ ∧
      LeadsTo (Path.ofText "/home/u") (Path.ofText "./a//b.c/x.py")
        (Path.ofText "/home/u/./a//b.c/x.py") := by
  have accepted : ofPath (some (Path.ofText "/home/u")) "~/./a//b.c/x.py" =
      .ok ⟨Path.ofText "/home/u/./a//b.c/x.py", Path.ofText "/home/u/./a//b.c", "x"⟩ :=
    ofPath_eq_ok (Path.ofText "/home/u/./a//b.c").segments (by decide)
      (by decide +kernel) (by decide) (by decide +kernel)
  exact ⟨accepted, ((files_behind_tilde accepted).tilde "./a//b.c/x.py" (.inl rfl)).1.2 (.inr rfl)⟩

/-- A second slash behind the tilde leads away from the home directory. -/
theorem doubled_slash_leaves_home :
    ¬∀ (directory : Path) (path rest : String) (script : Script),
      ofPath (some directory) path = .ok script → IsBehindTilde path rest →
        LeadsTo directory (Path.ofText rest) script.file := by
  intro stays
  have accepted : ofPath (some (Path.ofText "/home/u")) "~//etc/x.py" =
      .ok ⟨Path.ofText "/etc/x.py", Path.ofText "/etc", "x"⟩ :=
    ofPath_eq_ok (Path.ofText "/etc").segments (by decide)
      (by decide +kernel) (by decide) (by decide +kernel)
  obtain ⟨tail, whole, -⟩ := stays _ _ "/etc/x.py" _ accepted (.inl rfl)
  have file : (Path.ofText "/etc/x.py").components =
      [.root, .name (Octets.ofText "etc"), .name (Octets.ofText "x.py")] := by decide +kernel
  have home : (Path.ofText "/home/u").components =
      [.root, .name (Octets.ofText "home"), .name (Octets.ofText "u")] := by decide +kernel
  rw [file, home] at whole
  exact absurd (List.cons.inj (List.cons.inj whole).2).1 (by decide)

end Script

end EmbeddedPython
