import EmbeddedPython.Engine.Finder
import EmbeddedPython.Machine
import EmbeddedPython.Proofs.Files.Cuts

/-!
# Files that differ in a log

Two file systems are alike (`FileSystem.Alike`) if they have the same working
directory and the same nodes, but for a log: a file that both have at one
location, with contents that may differ.

Then a path leads to the same place in both (`Alike.locate`), something is
written in both or fails in both (`Alike.write`, `Alike.record`), and nobody who
looks for modules sees a difference as long as the log is no script
(`Alike.search`, `Alike.read`).
-/

namespace EmbeddedPython

/-- A node is a directory. -/
def Node.isDirectory : Node → Bool
  | .directory => true
  | .file _ => false

namespace FileSystem

theorem find_eq (fs : FileSystem) (p : Path) :
    fs.find p =
      match fs.locate p with
      | .error fault => .error fault
      | .ok at_ =>
        match fs.node? at_ with
        | some node => .ok node
        | none => .error .notFound := by
  unfold find
  cases fs.locate p with
  | error fault => rfl
  | ok at_ =>
    show (match fs.node? at_ with
      | some node => pure node
      | none => Except.error FileFault.notFound) = _
    dsimp only
    cases fs.node? at_ <;> rfl

theorem isFile_eq (fs : FileSystem) (p : Path) :
    fs.isFile p = ((fs.find p).toOption.map Node.isDirectory == some false) := by
  unfold isFile file?
  rcases fs.find p with fault | (_ | a) <;> rfl

theorem isFile_iff {fs : FileSystem} {p : Path} :
    fs.isFile p = true ↔ ∃ a, fs.find p = .ok (.file a) := by
  unfold isFile file?
  rcases fs.find p with fault | (_ | a) <;> simp

theorem isDirectory_eq (fs : FileSystem) (p : Path) :
    fs.isDirectory p = ((fs.find p).toOption.map Node.isDirectory == some true) := by
  unfold isDirectory
  rcases fs.find p with fault | (_ | a) <;> rfl

/-- A path that ends in a slash names no file. -/
theorem openFile_of_slash (fs : FileSystem) {p : Path}
    (h : (p.octets.getLast? == some Path.slash) = true) :
    ∃ fault, fs.openFile p = .error fault := by
  unfold openFile
  rw [if_pos h]
  cases fs.locate (Path.ofSegments p.isAbsolute (dropSlashes p.segments)) with
  | error fault => exact ⟨fault, rfl⟩
  | ok at_ => exact ⟨.isDirectory, rfl⟩

theorem openFile_eq (fs : FileSystem) {p : Path}
    (h : ¬(p.octets.getLast? == some Path.slash) = true) :
    fs.openFile p =
      match fs.locate p with
      | .error fault => .error fault
      | .ok at_ =>
        match fs.node? at_ with
        | some .directory => .error .isDirectory
        | some (.file f) => .ok (at_, some f)
        | none => .ok (at_, none) := by
  unfold openFile
  rw [if_neg h]
  cases fs.locate p with
  | error fault => rfl
  | ok at_ => rfl

/-- The same working directory and the same nodes, but for a file at one
location. -/
structure Alike (log : Option Location) (f g : FileSystem) : Prop where
  current : f.current = g.current
  same : ∀ at_, log ≠ some at_ → f.node? at_ = g.node? at_
  logs : ∀ at_, log = some at_ →
    (∃ a, f.node? at_ = some (.file a)) ∧ ∃ b, g.node? at_ = some (.file b)

namespace Alike

variable {log : Option Location} {f g k : FileSystem}

theorem refl_of_none (f : FileSystem) : Alike none f f :=
  ⟨rfl, fun _ _ => rfl, fun _ h => nomatch h⟩

theorem refl (h : ∀ at_, log = some at_ → ∃ a, f.node? at_ = some (.file a)) : Alike log f f :=
  ⟨rfl, fun _ _ => rfl, fun at_ isLog => ⟨h at_ isLog, h at_ isLog⟩⟩

theorem symm (h : Alike log f g) : Alike log g f :=
  ⟨h.current.symm, fun at_ ne => (h.same at_ ne).symm, fun at_ isLog => (h.logs at_ isLog).symm⟩

theorem trans (h : Alike log f g) (h' : Alike log g k) : Alike log f k :=
  ⟨h.current.trans h'.current, fun at_ ne => (h.same at_ ne).trans (h'.same at_ ne),
    fun at_ isLog => ⟨(h.logs at_ isLog).1, (h'.logs at_ isLog).2⟩⟩

/-! ## Paths -/

theorem follow (h : Alike log f g) (at_ : Location) (segments : List Octets) :
    f.follow at_ segments = g.follow at_ segments := by
  induction segments generalizing at_ with
  | nil => rfl
  | cons segment rest ih =>
    unfold FileSystem.follow
    by_cases isLog : log = some at_
    · obtain ⟨⟨a, ha⟩, b, hb⟩ := h.logs at_ isLog
      rw [ha, hb]
    · rw [h.same at_ isLog]
      simp only [ih]

theorem locate (h : Alike log f g) (p : Path) : f.locate p = g.locate p := by
  unfold FileSystem.locate
  rw [h.current, h.follow]

/-- A path that does not lead to the log. -/
def Avoids (log : Option Location) (f : FileSystem) (p : Path) : Prop :=
  ∀ at_, f.locate p = .ok at_ → log ≠ some at_

theorem find (h : Alike log f g) {p : Path} (avoids : Avoids log f p) : f.find p = g.find p := by
  rw [find_eq, find_eq, ← h.locate p]
  cases located : f.locate p with
  | error fault => rfl
  | ok at_ =>
    dsimp only
    rw [h.same at_ (avoids at_ located)]

/-- What a path leads to is of one kind in both. -/
theorem findKind (h : Alike log f g) (p : Path) :
    (f.find p).toOption.map Node.isDirectory = (g.find p).toOption.map Node.isDirectory := by
  rw [find_eq, find_eq, ← h.locate p]
  cases f.locate p with
  | error fault => rfl
  | ok at_ =>
    by_cases isLog : log = some at_
    · obtain ⟨⟨a, ha⟩, b, hb⟩ := h.logs at_ isLog
      dsimp only
      rw [ha, hb]
      rfl
    · dsimp only
      rw [h.same at_ isLog]

theorem isFile (h : Alike log f g) (p : Path) : f.isFile p = g.isFile p := by
  rw [isFile_eq, isFile_eq, h.findKind p]

theorem isDirectory (h : Alike log f g) (p : Path) : f.isDirectory p = g.isDirectory p := by
  rw [isDirectory_eq, isDirectory_eq, h.findKind p]

theorem read (h : Alike log f g) {p : Path} (avoids : Avoids log f p) : f.read p = g.read p := by
  unfold FileSystem.read
  rw [h.find avoids]

/-! ## Writing -/

theorem set (h : Alike log f g) {at_ : Location} (rooted : at_ ≠ []) {a b : File}
    (same : log ≠ some at_ → a = b) : Alike log (f.set at_ (.file a)) (g.set at_ (.file b)) where
  current := h.current
  same other ne := by
    by_cases here : other = at_
    · subst here
      rw [node?_set _ rooted, node?_set _ rooted, same ne]
    · rw [node?_set_of_ne _ here, node?_set_of_ne _ here, h.same other ne]
  logs other isLog := by
    by_cases here : other = at_
    · subst here
      exact ⟨⟨a, node?_set _ rooted _⟩, b, node?_set _ rooted _⟩
    · rw [node?_set_of_ne _ here, node?_set_of_ne _ here]
      exact h.logs other isLog

/-- A file is opened at one place in both, or in neither. -/
theorem openFile (h : Alike log f g) (p : Path) :
    (∃ fault, f.openFile p = .error fault ∧ g.openFile p = .error fault) ∨
      ∃ at_ a b, f.openFile p = .ok (at_, a) ∧ g.openFile p = .ok (at_, b) ∧ at_ ≠ [] ∧
        (log ≠ some at_ → a = b) := by
  by_cases slashed : (p.octets.getLast? == some Path.slash) = true
  · obtain ⟨fault, ends⟩ := openFile_of_slash f slashed
    refine .inl ⟨fault, ends, ?_⟩
    rw [← ends]
    unfold FileSystem.openFile
    rw [if_pos slashed, if_pos slashed, h.locate]
  · rw [openFile_eq f slashed, openFile_eq g slashed, ← h.locate p]
    cases f.locate p with
    | error fault => exact .inl ⟨fault, rfl, rfl⟩
    | ok at_ =>
      dsimp only
      by_cases isLog : log = some at_
      · obtain ⟨⟨a, ha⟩, b, hb⟩ := h.logs at_ isLog
        rw [ha, hb]
        refine .inr ⟨at_, some a, some b, rfl, rfl, ?_, fun ne => absurd isLog ne⟩
        rintro rfl
        cases ha
      · rw [← h.same at_ isLog]
        cases found : f.node? at_ with
        | none =>
          refine .inr ⟨at_, none, none, rfl, rfl, ?_, fun _ => rfl⟩
          rintro rfl
          cases found
        | some node =>
          cases node with
          | directory => exact .inl ⟨_, rfl, rfl⟩
          | file a =>
            refine .inr ⟨at_, some a, some a, rfl, rfl, ?_, fun _ => rfl⟩
            rintro rfl
            cases found

/-- Something is written in both or in neither. -/
theorem write (h : Alike log f g) (p : Path) (o : Octets) :
    (∃ fault, f.write p o = .error fault ∧ g.write p o = .error fault) ∨
      ∃ f' g', f.write p o = .ok f' ∧ g.write p o = .ok g' ∧ Alike log f' g' := by
  unfold FileSystem.write
  rcases h.openFile p with ⟨fault, hf, hg⟩ | ⟨at_, a, b, hf, hg, rooted, same⟩
  · rw [hf, hg]
    exact .inl ⟨fault, rfl, rfl⟩
  · rw [hf, hg]
    exact .inr ⟨_, _, rfl, rfl, h.set rooted fun ne => by rw [same ne]⟩

theorem record (h : Alike log f g) (p : Path) (stamp : String) (r : Log.Record) :
    Alike log (f.record p stamp r) (g.record p stamp r) := by
  unfold FileSystem.record FileSystem.append
  rcases h.openFile p with ⟨fault, hf, hg⟩ | ⟨at_, a, b, hf, hg, rooted, same⟩
  · rw [hf, hg]
    exact h
  · rw [hf, hg]
    exact h.set rooted fun ne => by rw [same ne]

/-- A record at the end of the log changes nothing else. -/
theorem record_log (h : Alike log f g) {p : Path} {at_ : Location} (isLog : log = some at_)
    (leads : g.locate p = .ok at_) (stamp : String) (r : Log.Record) :
    Alike log f (g.record p stamp r) := by
  obtain ⟨there, b, hb⟩ := h.logs at_ isLog
  have rooted : at_ ≠ [] := by
    rintro rfl
    cases hb
  unfold FileSystem.record FileSystem.append
  by_cases slashed : (p.octets.getLast? == some Path.slash) = true
  · obtain ⟨fault, ends⟩ := openFile_of_slash g slashed
    rw [ends]
    exact h
  · rw [openFile_eq g slashed, leads]
    dsimp only
    rw [hb]
    refine h.trans ⟨rfl, fun other ne => ?_, fun other isLog' => ?_⟩
    · refine (node?_set_of_ne _ (fun here => ne ?_) _).symm
      rw [here, isLog]
    · obtain rfl := Option.some.inj (isLog.symm.trans isLog')
      exact ⟨⟨b, hb⟩, _, node?_set _ rooted _⟩

/-! ## Modules -/

theorem directoryOf (h : Alike log f g) : Finder.directoryOf f = Finder.directoryOf g := by
  funext entry
  unfold Finder.directoryOf workingDirectory
  rw [h.current]

theorem findIn (h : Alike log f g) (tail : String) :
    Finder.findIn f tail = Finder.findIn g tail := by
  funext directory
  unfold Finder.findIn
  simp only [h.isDirectory, h.isFile]

theorem portionIn (h : Alike log f g) (tail : String) :
    Finder.portionIn f tail = Finder.portionIn g tail := by
  funext directory
  unfold Finder.portionIn
  simp only [h.isDirectory]

/-- The search for a module does not see what is in a log. -/
theorem search (h : Alike log f g) (directories : List Path) (tail : String) :
    Finder.search f directories tail = Finder.search g directories tail := by
  unfold Finder.search
  rw [h.findIn, h.portionIn]

end Alike

/-! ## Scripts -/

/-- The ending of the names of scripts. -/
def scriptEnding : Octets := Octets.ofText ".py"

/-- The location of something whose name has the ending of scripts. -/
def IsScript (at_ : Location) : Prop := ∃ name, at_.getLast? = some name ∧ scriptEnding <:+ name

theorem follow_concat {fs : FileSystem} {start at_ : Location} {front : List Octets}
    {last : Octets} (h : fs.follow start (front ++ [last]) = .ok at_) :
    ∃ inner, at_ = enter inner last := by
  induction front generalizing start with
  | nil =>
    rw [List.nil_append, follow] at h
    split at h
    · cases h
    · cases h
    · split at h
      · cases h
      · exact ⟨start, (Except.ok.inj h).symm⟩
  | cons segment rest ih =>
    rw [List.cons_append, follow] at h
    split at h
    · cases h
    · cases h
    · split at h
      · cases h
      · exact ih h

/-- A path with the ending of scripts leads to a script. -/
theorem isScript_of_locate {fs : FileSystem} {p : Path} {at_ : Location}
    (ending : scriptEnding <:+ p.octets) (located : fs.locate p = .ok at_) : IsScript at_ := by
  obtain ⟨octets, whole⟩ := ending
  have plain : Path.slash ∉ scriptEnding := by decide
  obtain ⟨front, last, -, cut⟩ := Path.splitAt_append octets plain
  unfold locate at located
  rw [Path.segments, ← whole, cut] at located
  split at located
  · cases located
  · split at located
    · cases located
    · split at located
      · cases located
      · obtain ⟨inner, rfl⟩ := follow_concat located
        have long : 2 < (last ++ scriptEnding).length := by
          rw [List.length_append]
          exact Nat.lt_of_lt_of_le (by decide) (Nat.le_add_left _ _)
        have entered : enter inner (last ++ scriptEnding) = inner ++ [last ++ scriptEnding] := by
          unfold enter
          rw [if_neg, if_neg]
          · intro same
            rw [same] at long
            exact absurd long (by decide)
          · intro idle
            rw [Path.isIdle, Bool.or_eq_true, beq_iff_eq, List.isEmpty_iff] at idle
            rcases idle with same | same <;> rw [same] at long <;> exact absurd long (by decide)
        rw [entered]
        exact ⟨_, List.getLast?_concat, List.suffix_append _ _⟩

theorem scriptEnding_entryOf (directory : Path) (name : String) :
    scriptEnding <:+ (Finder.entryOf directory (name ++ ".py")).octets := by
  have whole : Octets.ofText (name ++ ".py") = Octets.ofText name ++ scriptEnding := by
    rw [Octets.ofText, String.toList_append, List.flatMap_append]
    rfl
  have kept : Finder.dropSlashes (Octets.ofText name ++ scriptEnding) =
      Octets.ofText name ++ scriptEnding := by
    rw [Finder.dropSlashes, List.reverse_append]
    show (List.dropWhile _ (0x79 :: 0x70 :: 0x2E :: (Octets.ofText name).reverse)).reverse = _
    rw [List.dropWhile_cons_of_neg (by decide)]
    simp [scriptEnding, Octets.ofText, Octets.encodeChar]
  rw [Finder.entryOf, whole, kept]
  exact (List.suffix_append _ _).trans (List.suffix_append _ _)

/-- The program of what is found is in a script. -/
theorem scriptEnding_of_search {fs : FileSystem} {directories : List Path} {tail : String}
    {found : Finder.Finding} {path : Path}
    (finds : Finder.search fs directories tail = .ok (some found))
    (source : found.source? = some path) : scriptEnding <:+ path.octets := by
  unfold Finder.search at finds
  split at finds
  · next there =>
    obtain rfl := Option.some.inj (Except.ok.inj finds)
    obtain ⟨directory, -, here⟩ := List.exists_of_findSome?_eq_some there
    unfold Finder.findIn at here
    split at here
    · cases here
    · dsimp only at here
      split at here
      · obtain rfl := Option.some.inj here
        obtain rfl := Option.some.inj source
        exact scriptEnding_entryOf _ "__init__"
      · split at here
        · obtain rfl := Option.some.inj here
          obtain rfl := Option.some.inj source
          exact scriptEnding_entryOf directory tail
        · cases here
  · split at finds
    · cases finds
    · split at finds
      · cases finds
      · obtain rfl := Option.some.inj (Except.ok.inj finds)
        cases source

end FileSystem

end EmbeddedPython
