import EmbeddedPython.Proofs.Logging.Calls

/-!
# The log file is a faithful record

Opening a log makes its directory and takes away what was at its path
(`Machine.openLog_eq`), so the log file is empty at first.  From then on it holds
what the calls add, whatever the console shows (`Machine.log_is_faithful`): no
setting of the console takes part, and a log that is opened for another file leaves
this one alone.

It is the file that matters and not the path.  A path that is spelled differently
may name the same file, and then the old log is lost
(`Machine.another_spelling_removes_log`).
-/

namespace EmbeddedPython

namespace Machine

open FileSystem LogCall

variable {m n : Machine} {p : Path}

/-! ## Opening a log -/

/-- The files with the directory of a path, and without a file at the path. -/
def prepared (m : Machine) (p : Path) : Except FileFault FileSystem :=
  (m.createParent p).map fun made => made.files.without p

theorem prepared_cases {files : FileSystem} (h : m.prepared p = .ok files) :
    ∃ made, m.createParent p = .ok made ∧ files = made.files.without p := by
  unfold prepared at h
  cases parent : m.createParent p with
  | error fault =>
    rw [parent] at h
    cases h
  | ok made =>
    rw [parent] at h
    exact ⟨made, rfl, (Except.ok.inj h).symm⟩

theorem createParent_configureLog (m : Machine) (p : Path) (verbosity : Nat)
    (forwards quiet : Bool) :
    (m.configureLog verbosity forwards quiet).createParent p =
      (m.createParent p).map fun made =>
        { m.configureLog verbosity forwards quiet with files := made.files } := by
  unfold createParent
  cases p.parent? with
  | none => rfl
  | some directory =>
    dsimp only [configureLog]
    cases m.files.createDirectories directory <;> rfl

theorem removeOld_eq (m : Machine) (p : Path) :
    m.removeOld p = { m with files := m.files.without p } := by
  unfold removeOld without
  cases m.files.remove p <;> rfl

/-- A log is opened on the files that are prepared for it. -/
theorem openLog_eq (m : Machine) (p : Path) (verbosity : Nat) (forwards quiet : Bool) :
    m.openLog p verbosity forwards quiet =
      match m.prepared p with
      | .error fault =>
        (.error (.directory fault), (m.configureLog verbosity forwards quiet).makeParent p)
      | .ok files =>
        (.ok (), { m with
          files, log := { m.log with path := some p, verbosity, forwards, quiet } }) := by
  unfold openLog prepared
  dsimp only
  rw [createParent_configureLog]
  cases m.createParent p with
  | error fault => rfl
  | ok made =>
    dsimp only [Except.map]
    rw [removeOld_eq]
    rfl

/-- Preparing a log leaves every other file alone. -/
theorem leaves_prepared {files : FileSystem} (h : m.prepared p = .ok files) {at_ : Location}
    (apart : at_ ≠ m.files.place p) : Leaves at_ m.files files := by
  obtain ⟨made, parent, rfl⟩ := prepared_cases h
  have makes := makes_createParent parent
  refine (Leaves.of_makes makes).trans (.of_sameBut (sameBut_without made.files p) ?_)
  rwa [place_of_current makes.current]

/-- A log file that can be written to is empty at first. -/
theorem collects_prepared {files after : FileSystem} (h : m.prepared p = .ok files) {o : Octets}
    (writable : files.append p o = .ok after) : Collects files p none := by
  obtain ⟨made, -, rfl⟩ := prepared_cases h
  exact collects_without writable

/-- The path that a request asks for. -/
def logPath? (m : Machine) (r : LogRequest) : Option Path :=
  match r.file with
  | some p => some p
  | none => m.home?.map defaultLog

theorem initLog_eq (m : Machine) (r : LogRequest) :
    m.initLog r =
      match m.logPath? r with
      | none => (.error .noHome, m)
      | some p => m.openLog p r.verbosity r.forwards r.quiet := by
  unfold initLog logPath? openDefaultLog
  cases r.file with
  | some p => rfl
  | none => cases m.home? <;> rfl

/-- The machine with an empty log for a request. -/
def opened (m : Machine) (files : FileSystem) (p : Path) (r : LogRequest) : Machine :=
  { m with
    files
    log := { m.log with path := some p, verbosity := r.verbosity, forwards := r.forwards,
                        quiet := r.quiet } }

/-- A request has no path, it has a path where no files can be prepared, or it is granted. -/
theorem initLog_cases (m : Machine) (r : LogRequest) :
    (m.logPath? r = none ∧ m.initLog r = (.error .noHome, m)) ∨
      (∃ p fault, m.logPath? r = some p ∧ m.prepared p = .error fault ∧
        m.initLog r = (.error (.directory fault),
          (m.configureLog r.verbosity r.forwards r.quiet).makeParent p)) ∨
      ∃ p files, m.logPath? r = some p ∧ m.prepared p = .ok files ∧
        m.initLog r = (.ok (), m.opened files p r) := by
  rw [initLog_eq]
  cases asked : m.logPath? r with
  | none => exact .inl ⟨rfl, rfl⟩
  | some p =>
    dsimp only
    rw [openLog_eq]
    cases prepares : m.prepared p with
    | error fault => exact .inr (.inl ⟨p, fault, rfl, prepares, rfl⟩)
    | ok files => exact .inr (.inr ⟨p, files, rfl, prepares, rfl⟩)

/-- A request is granted where the files can be prepared for it. -/
theorem initLog_eq_ok {r : LogRequest} :
    (m.initLog r).1 = .ok () ↔
      ∃ p files, m.logPath? r = some p ∧ m.prepared p = .ok files ∧
        m.initLog r = (.ok (), m.opened files p r) := by
  constructor
  · intro granted
    rcases m.initLog_cases r with ⟨-, refused⟩ | ⟨p, fault, -, -, refused⟩ | opens
    · rw [refused] at granted
      cases granted
    · rw [refused] at granted
      cases granted
    · exact opens
  · rintro ⟨p, files, -, -, opens⟩
    rw [opens]

/-- A request leaves every file alone but the one that it asks for. -/
theorem leaves_initLog {r : LogRequest} {at_ : Location}
    (apart : ∀ other, m.logPath? r = some other → at_ ≠ m.files.place other) :
    Leaves at_ m.files (m.initLog r).2.files := by
  rcases m.initLog_cases r with
    ⟨-, refused⟩ | ⟨p, fault, -, -, refused⟩ | ⟨p, files, asked, prepares, opens⟩
  · rw [refused]
    exact .refl ..
  · rw [refused]
    obtain ⟨places, makes⟩ := (m.configureLog r.verbosity r.forwards r.quiet).makes_makeParent p
    exact .of_makes makes
  · rw [opens]
    exact leaves_prepared prepares (apart p asked)

/-! ## What becomes of the log file -/

/-- The machine after a request for a log and calls of it. -/
def logged (m : Machine) (r : LogRequest) (calls : List (String × LogCall)) : Machine :=
  (m.initLog r).2.performAll calls

/-- The log file of a machine can be written to. -/
def LogIsWritable (m : Machine) : Prop :=
  ∃ p after, m.log.path = some p ∧ m.files.append p [] = .ok after

/-- The files after calls of a log that was granted. -/
theorem files_logged {r : LogRequest} {files : FileSystem}
    (opens : m.initLog r = (.ok (), m.opened files p r)) (calls : List (String × LogCall)) :
    (m.logged r calls).files = files.recordAll p (written calls) := by
  unfold logged
  rw [opens]
  exact (adds_performAll _ calls).files

/-- The console after calls of a log that was granted. -/
theorem console_logged {r : LogRequest} (granted : (m.initLog r).1 = .ok ())
    (calls : List (String × LogCall)) :
    (m.logged r calls).console = m.console ++
      shown (echoed m.log.coloured r.verbosity r.quiet (calls.map Prod.snd)) := by
  obtain ⟨p, files, -, -, opens⟩ := initLog_eq_ok.1 granted
  unfold logged
  rw [opens]
  exact (adds_performAll (m.opened files p r) calls).console

/-- Requests for the same file are granted alike. -/
theorem initLog_of_file {r r' : LogRequest} (same : r'.file = r.file) {files : FileSystem}
    (asked : m.logPath? r = some p) (prepares : m.prepared p = .ok files) :
    m.initLog r' = (.ok (), m.opened files p r') := by
  have asked' : m.logPath? r' = some p := by
    rw [← asked, logPath?, logPath?, same]
  rw [initLog_eq, asked']
  dsimp only
  rw [openLog_eq, prepares]
  rfl

/-- The log file holds what the calls add. -/
theorem find_logged {r : LogRequest} {files : FileSystem}
    (opens : m.initLog r = (.ok (), m.opened files p r)) (empty : Collects files p none)
    (calls : List (String × LogCall)) :
    (m.logged r calls).files.find p = held (Collects.added none (written calls)) := by
  rw [files_logged opens]
  exact (empty.recordAll (written calls)).find

/-- A log for another file leaves a file alone, and so do its calls. -/
theorem find_of_other {r : LogRequest}
    (apart : ∀ other, m.logPath? r = some other → m.files.place other ≠ m.files.place p)
    {a : File} (there : m.files.find p = .ok (.file a)) :
    (m.initLog r).2.files.find p = .ok (.file a) ∧ ((m.initLog r).1 = .ok () →
      ∀ calls, (m.logged r calls).files.find p = .ok (.file a)) := by
  have left := leaves_initLog fun other asked => (apart other asked).symm
  refine ⟨left.find there, fun granted calls => ?_⟩
  obtain ⟨other, files, asked, -, opens⟩ := initLog_eq_ok.1 granted
  rw [opens] at left
  change Leaves _ _ files at left
  have elsewhere : m.files.place p ≠ files.place other := by
    rw [place_of_current left.current]
    exact (apart other asked).symm
  rw [files_logged opens]
  have more := Leaves.of_sameBut (sameBut_recordAll files other (written calls)) elsewhere
  exact (left.trans more).find there

/-- Calls that differ in whether the log is quiet lead to the same files. -/
theorem files_logged_of_unmuted {r r' : LogRequest} {files : FileSystem}
    (opens : m.initLog r = (.ok (), m.opened files p r))
    (opens' : m.initLog r' = (.ok (), m.opened files p r')) {calls calls' : List (String × LogCall)}
    (stamps : calls'.map Prod.fst = calls.map Prod.fst)
    (alike : (calls'.map fun call => call.2.unmuted) = calls.map fun call => call.2.unmuted) :
    (m.logged r' calls').files = (m.logged r calls).files := by
  rw [files_logged opens, files_logged opens', written_eq_zip calls', stamps, alike,
    ← written_eq_zip]

/-- Nothing is shown while the log is quiet. -/
theorem console_of_quiet {calls : List (String × LogCall)} (quiet : m.log.quiet = true)
    (stays : .setQuiet false ∉ calls.map Prod.snd) : (m.performAll calls).console = m.console := by
  have shows := (adds_performAll m calls).console
  rw [quiet, echoed_of_quiet stays] at shows
  exact shows.trans (String.append_empty ..)

theorem performAll_append (m : Machine) (calls more : List (String × LogCall)) :
    m.performAll (calls ++ more) = (m.performAll calls).performAll more :=
  List.foldl_append

/-- A log file that is a faithful record of the calls since it was asked for. -/
structure IsFaithful (m : Machine) (r : LogRequest) (calls : List (String × LogCall)) (p : Path) :
    Prop where
  /-- The file holds what the calls add, in their order, and nothing else. -/
  holds : (m.logged r calls).files.find p = held (Collects.added none (written calls))
  /-- A log that is asked for at a path to another file leaves this one alone, and so
  do its calls. -/
  untouched (later : LogRequest)
    (apart : ∀ other, (m.logged r calls).logPath? later = some other →
      (m.logged r calls).files.place other ≠ (m.logged r calls).files.place p) (a : File)
    (there : (m.logged r calls).files.find p = .ok (.file a)) :
    ((m.logged r calls).initLog later).2.files.find p = .ok (.file a) ∧
      (((m.logged r calls).initLog later).1 = .ok () →
        ∀ more, ((m.logged r calls).logged later more).files.find p = .ok (.file a))
  /-- The entries are the same with other settings of the console, and so is the whole
  file system if the stamps are. -/
  blind (r' : LogRequest) (calls' : List (String × LogCall)) (request : r'.file = r.file)
    (alike : (calls'.map fun call => call.2.unmuted) = calls.map fun call => call.2.unmuted) :
    (m.initLog r').1 = .ok () ∧
      (m.logged r' calls').files.find p = held (Collects.added none (written calls')) ∧
      (written calls').map Prod.snd = (written calls).map Prod.snd ∧
      (calls'.map Prod.fst = calls.map Prod.fst →
        (m.logged r' calls').files = (m.logged r calls).files)
  /-- As long as the log is quiet, nothing is shown. -/
  silent (before during : List (String × LogCall)) (all : calls = before ++ during)
    (quiet : (m.logged r before).log.quiet = true) (stays : .setQuiet false ∉ during.map Prod.snd) :
    (m.logged r calls).console = (m.logged r before).console
  /-- What is shown are some of the lines that a higher verbosity shows, in their order. -/
  fewer (chatty : Nat) (le : r.verbosity ≤ chatty) :
    let few := echoed m.log.coloured r.verbosity r.quiet (calls.map Prod.snd)
    let many := echoed m.log.coloured chatty r.quiet (calls.map Prod.snd)
    (m.logged r calls).console = m.console ++ shown few ∧
      (m.logged { r with verbosity := chatty } calls).console = m.console ++ shown many ∧
      few.Sublist many

/-- The log file is a faithful record that does not hang on the console. -/
theorem log_is_faithful (m : Machine) (r : LogRequest) (calls : List (String × LogCall))
    (granted : (m.initLog r).1 = .ok ()) (writable : (m.initLog r).2.LogIsWritable) :
    ∃ p, m.logPath? r = some p ∧ m.IsFaithful r calls p := by
  obtain ⟨p, files, asked, prepares, opens⟩ := initLog_eq_ok.1 granted
  have empty : Collects files p none := by
    obtain ⟨p', after, isLog, writes⟩ := writable
    rw [opens] at isLog writes
    obtain rfl : p = p' := Option.some.inj isLog
    exact collects_prepared prepares writes
  have opensAlike (r' : LogRequest) (same : r'.file = r.file) :=
    initLog_of_file same asked prepares
  refine ⟨p, asked, find_logged opens empty calls,
    fun later apart a there => find_of_other apart there,
    fun r' calls' same alike => ?_, ?_, fun chatty le => ?_⟩
  · -- the settings of the console have no part in what is prepared and what is written
    have opens' := opensAlike r' same
    refine ⟨by rw [opens'], find_logged opens' empty calls', ?_,
      fun stamps => files_logged_of_unmuted opens opens' stamps alike⟩
    rw [map_snd_written, map_snd_written, alike]
  · rintro before during rfl quiet stays
    rw [logged, performAll_append]
    exact console_of_quiet quiet stays
  · exact ⟨console_logged granted calls,
      console_logged (congrArg Prod.fst (opensAlike { r with verbosity := chatty } rfl)) calls,
      echoed_sublist le _ _⟩

namespace Spelling

/-- A machine that works in a directory with a log of an earlier time. -/
def machine : Machine :=
  let log : Location × Node :=
    ([Octets.ofText "tmp", Octets.ofText "x.log"], .file ⟨.octets (Octets.ofText "old"), false⟩)
  ⟨⟨[([Octets.ofText "tmp"], .directory), log], [Octets.ofText "tmp"]⟩, [], Log.initial, "",
    ⟨"noon", "", 0⟩⟩

/-- A request for a log at a path. -/
def request (path : String) : LogRequest := ⟨some (Path.ofText path), 0, false, false⟩

/-- A command that wrote to one stream, between two messages. -/
def calls : List (String × LogCall) :=
  [("one", .tell .info "ready"), ("two", .setQuiet true),
    ("three", .recordStreams "pip" (some 0) (Octets.ofText "done") []),
    ("four", .failSpinner "stuck")]

/-- The text of the log file after the calls. -/
def text : String :=
  "[one] [HOST] INFO ready\n[three] [HOST] COMMAND: pip (exit code: Some(0))\n" ++
    "[three] [CHILD]   STDOUT:\ndone\n[four] [HOST] ERROR stuck\n"

theorem granted : (machine.initLog (request "/tmp/x.log")).1 = .ok () := rfl

theorem isWritable : (machine.initLog (request "/tmp/x.log")).2.LogIsWritable :=
  ⟨_, _, rfl, rfl⟩

end Spelling

open Spelling in
/-- The log file of some calls, and that it is the only text in it. -/
theorem log_of_calls :
    (machine.initLog (request "/tmp/x.log")).1 = .ok () ∧
    ∃ p, machine.logPath? (request "/tmp/x.log") = some p ∧
      machine.IsFaithful (request "/tmp/x.log") calls p ∧
      Collects.added none (written calls) = some (Octets.ofText text) := by
  obtain ⟨p, asked, faithful⟩ :=
    log_is_faithful machine (request "/tmp/x.log") calls granted isWritable
  exact ⟨granted, p, asked, faithful, by decide +kernel⟩

open Spelling in
/-- A log that is opened at another spelling of the path takes the first one away. -/
theorem another_spelling_removes_log :
    ¬(∀ (m : Machine) (r : LogRequest) (calls : List (String × LogCall)) (p : Path),
        (m.initLog r).1 = .ok () → (m.initLog r).2.LogIsWritable → m.logPath? r = some p →
        ∀ later : LogRequest, (m.logged r calls).logPath? later ≠ some p →
        ∀ a, (m.logged r calls).files.find p = .ok (.file a) →
          ((m.logged r calls).initLog later).2.files.find p = .ok (.file a)) := by
  intro untouched
  have there : (machine.logged (request "/tmp/x.log") calls).files.isFile
      (Path.ofText "/tmp/x.log") = true := by
    decide +kernel
  have gone : ((machine.logged (request "/tmp/x.log") calls).initLog
      (request "x.log")).2.files.isFile (Path.ofText "/tmp/x.log") = false := by
    decide +kernel
  obtain ⟨a, found⟩ := isFile_iff.1 there
  have kept := untouched machine (request "/tmp/x.log") calls _ granted isWritable rfl
    (request "x.log") (by decide +kernel) a found
  rw [isFile_iff.2 ⟨a, kept⟩] at gone
  cases gone

end Machine

end EmbeddedPython
