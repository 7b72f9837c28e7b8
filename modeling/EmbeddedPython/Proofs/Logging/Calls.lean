import EmbeddedPython.LogCall
import EmbeddedPython.Proofs.Files.Records
import EmbeddedPython.Proofs.Settings

/-!
# What the calls of a log add

A call adds entries to the log file and shows lines on the console.  Which entries
is said by the call alone (`LogCall.entries`), and which lines by the call, the
verbosity and whether the log is quiet (`LogCall.echoed`).

* `Machine.Adds` says that a machine is another one with entries and lines added.
* `Machine.adds_perform` is one call, and `Machine.adds_performAll` any row of calls.
-/

namespace EmbeddedPython

namespace LogCall

/-! ## Entries of the log file -/

/-- The word in front of a message. -/
def word : Log.Level → String
  | .info => "INFO "
  | .debug => "DEBUG "
  | .warning => "WARN "
  | .error | .failure => "ERROR "
  | .success => "SUCCESS "
  | .step => "STEP: "

/-- The entry of a stream, if anything was written to it. -/
def streamEntries (label : String) (octets : Octets) : List Log.Record :=
  if octets = [] then [] else [⟨.child, "  " ++ label ++ ":\n" ++ Octets.lossy octets⟩]

/-- The entry of a command, and those of its streams. -/
def commandEntries (command code : String) (output errors : Octets) : List Log.Record :=
  [⟨.host, "COMMAND: " ++ command ++ " (exit code: " ++ code ++ ")"⟩] ++
    streamEntries "STDOUT" output ++ streamEntries "STDERR" errors

/-- What a call adds to the log file. -/
def entries : LogCall → List Log.Record
  | .tell level message => [⟨.host, word level ++ message⟩]
  | .recordStreams command (some code) output errors =>
    commandEntries command ("Some(" ++ Numeral.signed code ++ ")") output errors
  | .recordStreams command none output errors => commandEntries command "None" output errors
  | .recordEnd command (.exited code) output errors =>
    commandEntries command ("Some(" ++ Numeral.signed code ++ ")") output errors
  | .recordEnd command (.signalled _ _) output errors =>
    commandEntries command "None" output errors
  | .finishSpinner message => [⟨.host, "SUCCESS " ++ message⟩]
  | .failSpinner message => [⟨.host, "ERROR " ++ message⟩]
  | .startSpinner _ | .stopSpinner | .setForwards _ | .setQuiet _ => []

/-- The entries of a row of calls, each with the stamp of its call. -/
def written (calls : List (String × LogCall)) : List (String × Log.Record) :=
  calls.flatMap fun call => call.2.entries.map fun r => (call.1, r)

theorem commandRecords_eq (command : String) (code : Option Int) (output errors : Octets) :
    Log.commandRecords command code output errors =
      (recordStreams command code output errors).entries := by
  have stream (label : String) (o : Octets) :
      Log.streamRecords label o = streamEntries label o := by
    cases o <;> rfl
  cases code <;> simp [Log.commandRecords, entries, commandEntries, stream, Log.codeText]

theorem record_eq (level : Log.Level) (message : String) :
    level.record message = ⟨.host, word level ++ message⟩ := by
  cases level <;> rfl

/-! ## Lines of the console -/

/-- The line of a message from its verbosity on. -/
def line? (coloured : Bool) (verbosity : Nat) (level : Log.Level) (message : String) :
    Option String :=
  if verbosity < level.threshold then none else some (level.echo coloured message)

/-- The lines that a call shows while the log is not quiet. -/
def lines (coloured : Bool) (verbosity : Nat) : LogCall → List String
  | .tell level message => (line? coloured verbosity level message).toList
  | .finishSpinner message => (line? coloured verbosity .success message).toList
  | .failSpinner message => (line? coloured verbosity .failure message).toList
  | .recordStreams _ _ _ _ | .recordEnd _ _ _ _ | .startSpinner _ | .stopSpinner
  | .setForwards _ | .setQuiet _ => []

/-- Whether the log is quiet after a call. -/
def quietAfter (quiet : Bool) : LogCall → Bool
  | .setQuiet on => on
  | _ => quiet

/-- The lines that a row of calls shows. -/
def echoed (coloured : Bool) (verbosity : Nat) : Bool → List LogCall → List String
  | _, [] => []
  | quiet, call :: calls =>
    (if quiet then [] else call.lines coloured verbosity) ++
      echoed coloured verbosity (call.quietAfter quiet) calls

theorem line?_sublist {coloured : Bool} {terse chatty : Nat} (le : terse ≤ chatty)
    (level : Log.Level) (message : String) :
    (line? coloured terse level message).toList.Sublist
      (line? coloured chatty level message).toList := by
  unfold line?
  by_cases low : terse < level.threshold
  · rw [if_pos low]
    exact List.nil_sublist _
  · have high : ¬chatty < level.threshold := fun h => low (Nat.lt_of_le_of_lt le h)
    simpa only [if_neg low, if_neg high] using List.Sublist.refl _

theorem lines_sublist {coloured : Bool} {terse chatty : Nat} (le : terse ≤ chatty)
    (call : LogCall) : (call.lines coloured terse).Sublist (call.lines coloured chatty) := by
  cases call with
  | tell level message => exact line?_sublist le level message
  | finishSpinner message => exact line?_sublist le .success message
  | failSpinner message => exact line?_sublist le .failure message
  | _ => exact List.nil_sublist _

/-- A lower verbosity shows some of the lines of a higher one, in their order. -/
theorem echoed_sublist {coloured : Bool} {terse chatty : Nat} (le : terse ≤ chatty)
    (quiet : Bool) (calls : List LogCall) :
    (echoed coloured terse quiet calls).Sublist (echoed coloured chatty quiet calls) := by
  induction calls generalizing quiet with
  | nil => exact .slnil
  | cons call calls ih =>
    refine List.Sublist.append ?_ (ih _)
    cases quiet with
    | true => exact .slnil
    | false => exact lines_sublist le call

/-- A quiet log shows nothing as long as it stays quiet. -/
theorem echoed_of_quiet {coloured : Bool} {verbosity : Nat} {calls : List LogCall}
    (stays : setQuiet false ∉ calls) : echoed coloured verbosity true calls = [] := by
  induction calls with
  | nil => rfl
  | cons call calls ih =>
    rw [List.mem_cons, not_or] at stays
    have still : call.quietAfter true = true := by
      cases call with
      | setQuiet on =>
        cases on with
        | true => rfl
        | false => exact absurd rfl stays.1
      | _ => rfl
    rw [echoed, if_pos rfl, still, ih stays.2, List.append_nil]

/-! ## Calls that differ in whether the log is quiet -/

/-- A call without what it says about whether the log is quiet. -/
def unmuted : LogCall → LogCall
  | .setQuiet _ => .setQuiet false
  | call => call

theorem entries_unmuted (call : LogCall) : call.unmuted.entries = call.entries := by
  cases call <;> rfl

/-- The entries of a row of calls without their stamps. -/
theorem map_snd_written (calls : List (String × LogCall)) :
    (written calls).map Prod.snd = (calls.map fun call => call.2.unmuted).flatMap entries := by
  induction calls with
  | nil => rfl
  | cons call calls ih =>
    simp only [written, List.flatMap_cons, List.map_append, List.map_map, List.map_cons,
      entries_unmuted] at ih ⊢
    rw [ih]
    exact congrArg (· ++ _) (List.map_id _)

/-- The entries of a row of calls, from the stamps and from what is asked for. -/
theorem written_eq_zip (calls : List (String × LogCall)) :
    written calls =
      written ((calls.map Prod.fst).zip (calls.map fun call => call.2.unmuted)) := by
  induction calls with
  | nil => rfl
  | cons call calls ih =>
    simp only [written, List.flatMap_cons, List.map_cons, List.zip_cons_cons,
      entries_unmuted] at ih ⊢
    rw [ih]

end LogCall

/-! ## Machines with entries and lines added -/

namespace Machine

open LogCall

/-- What lines are on the console. -/
def shown (lines : List String) : String :=
  String.join (lines.map (· ++ "\n"))

theorem shown_append (lines more : List String) :
    shown (lines ++ more) = shown lines ++ shown more := by
  simp only [shown, List.map_append, String.join_append]

/-- Files with entries in the log file, if there is one. -/
def entered (log : Log) (files : FileSystem) (entries : List (String × Log.Record)) : FileSystem :=
  match log.path with
  | none => files
  | some p => files.recordAll p entries

theorem entered_append (log : Log) (files : FileSystem)
    (entries more : List (String × Log.Record)) :
    entered log files (entries ++ more) = entered log (entered log files entries) more := by
  unfold entered
  cases log.path with
  | none => rfl
  | some p => exact files.recordAll_append p entries more

theorem entered_nil (log : Log) (files : FileSystem) : entered log files [] = files := by
  unfold entered
  cases log.path <;> rfl

theorem entered_of_path {log log' : Log} (same : log'.path = log.path) (files : FileSystem)
    (entries : List (String × Log.Record)) :
    entered log' files entries = entered log files entries := by
  rw [entered, entered, same]

/-- A machine is another one with entries in the log file and lines on the console.
The log has the same file and shows as much as before, but it may have become quiet
or audible. -/
structure Adds (entries : List (String × Log.Record)) (lines : List String) (m n : Machine) :
    Prop where
  path : n.log.path = m.log.path
  verbosity : n.log.verbosity = m.log.verbosity
  coloured : n.log.coloured = m.log.coloured
  files : n.files = entered m.log m.files entries
  console : n.console = m.console ++ shown lines

namespace Adds

variable {l m n : Machine} {entries more : List (String × Log.Record)} {lines others : List String}

theorem refl (m : Machine) : Adds [] [] m m :=
  ⟨rfl, rfl, rfl, (entered_nil ..).symm, (String.append_empty ..).symm⟩

theorem trans (h : Adds entries lines l m) (h' : Adds more others m n) :
    Adds (entries ++ more) (lines ++ others) l n where
  path := h'.path.trans h.path
  verbosity := h'.verbosity.trans h.verbosity
  coloured := h'.coloured.trans h.coloured
  files := by rw [h'.files, h.files, entered_of_path h.path, entered_append]
  console := by rw [h'.console, h.console, shown_append, String.append_assoc]

/-- A call that shows nothing does so whether the log is quiet or not. -/
theorem silently (h : Adds entries [] m n) (quiet : Bool) :
    Adds entries (if quiet then [] else []) m n := by
  rwa [ite_self]

end Adds

@[simp]
theorem log_record (m : Machine) (r : Log.Record) : (m.record r).log = m.log := by
  unfold record
  split <;> rfl

@[simp]
theorem log_tell (m : Machine) (level : Log.Level) (message : String) :
    (m.tell level message).log = m.log := by
  unfold tell
  dsimp only
  split <;> exact log_record ..

@[simp]
theorem clock_record (m : Machine) (r : Log.Record) : (m.record r).clock = m.clock := by
  unfold record
  split <;> rfl

@[simp]
theorem console_record (m : Machine) (r : Log.Record) : (m.record r).console = m.console := by
  unfold record
  split <;> rfl

/-- Entries with the stamp of a machine. -/
def stamped (m : Machine) (records : List Log.Record) : List (String × Log.Record) :=
  records.map fun r => (m.clock.stamp, r)

theorem adds_record (m : Machine) (r : Log.Record) : Adds (m.stamped [r]) [] m (m.record r) where
  path := by rw [log_record]
  verbosity := by rw [log_record]
  coloured := by rw [log_record]
  files := by
    unfold record entered
    cases m.log.path <;> rfl
  console := by
    rw [console_record]
    exact (String.append_empty ..).symm

theorem adds_foldl_record (m : Machine) (records : List Log.Record) :
    Adds (m.stamped records) [] m (records.foldl record m) := by
  induction records generalizing m with
  | nil => exact .refl m
  | cons r rest ih =>
    have added := ih (m.record r)
    rw [stamped, clock_record] at added
    exact (adds_record m r).trans added

theorem adds_line (m : Machine) (line : String) :
    Adds [] [line] m { m with console := m.console ++ (line ++ "\n") } :=
  ⟨rfl, rfl, rfl, (entered_nil ..).symm, by simp [shown]⟩

theorem adds_tell (m : Machine) (level : Log.Level) (message : String) :
    Adds (m.stamped [level.record message])
      (if m.log.quiet then [] else (line? m.log.coloured m.log.verbosity level message).toList)
      m (m.tell level message) := by
  have recorded := adds_record m (level.record message)
  unfold tell Log.echo? line?
  dsimp only
  rw [log_record]
  cases m.log.quiet with
  | true => exact recorded
  | false =>
    by_cases low : m.log.verbosity < level.threshold
    · simpa [low] using recorded
    · simp only [low, Bool.false_or, decide_false, Bool.false_eq_true, if_false]
      have said := adds_line (m.record (level.record message))
        (level.echo m.log.coloured message)
      rw [log_record] at said
      exact recorded.trans said

theorem adds_recordCommand (m : Machine) (command : String) (code : Option Int)
    (output errors : Octets) :
    Adds (m.stamped (recordStreams command code output errors).entries) [] m
      (m.recordCommand command code output errors) := by
  rw [← commandRecords_eq]
  exact adds_foldl_record m _

/-- Settings of the log that neither the log file nor the console hang on. -/
theorem adds_of_log (m : Machine) (log : Log) (path : log.path = m.log.path)
    (verbosity : log.verbosity = m.log.verbosity) (coloured : log.coloured = m.log.coloured) :
    Adds [] [] m { m with log } :=
  ⟨path, verbosity, coloured, (entered_nil ..).symm, (String.append_empty ..).symm⟩

theorem adds_startSpinner (m : Machine) (message : String) :
    Adds [] [] m (m.startSpinner message) := by
  unfold startSpinner
  split
  · exact .refl m
  · exact adds_of_log m _ rfl rfl rfl

theorem adds_stopSpinner (m : Machine) : Adds [] [] m m.stopSpinner :=
  adds_of_log m _ rfl rfl rfl

/-- One call adds its entries, and its lines unless the log is quiet. -/
theorem adds_perform (m : Machine) (call : LogCall) :
    Adds (m.stamped call.entries)
      (if m.log.quiet then [] else call.lines m.log.coloured m.log.verbosity)
      m (m.perform call) := by
  cases call with
  | tell level message =>
    rw [entries, ← record_eq]
    exact adds_tell m level message
  | recordStreams command code output errors =>
    exact (adds_recordCommand m command code output errors).silently _
  | recordEnd command status output errors =>
    have added := (adds_recordCommand m command status.code? output errors).silently m.log.quiet
    cases status <;> exact added
  | startSpinner message => exact (adds_startSpinner m message).silently _
  | finishSpinner message =>
    exact (adds_stopSpinner m).trans (adds_tell m.stopSpinner .success message)
  | failSpinner message =>
    exact (adds_stopSpinner m).trans (adds_tell m.stopSpinner .failure message)
  | stopSpinner => exact (adds_stopSpinner m).silently _
  | setForwards on =>
    exact (adds_of_log m { m.log with forwards := on } rfl rfl rfl).silently _
  | setQuiet on => exact (adds_of_log m { m.log with quiet := on } rfl rfl rfl).silently _

theorem quiet_perform (m : Machine) (call : LogCall) :
    (m.perform call).log.quiet = call.quietAfter m.log.quiet := by
  cases call with
  | tell level message => exact congrArg Settings.quiet (settings_tell m level message)
  | recordStreams command code output errors =>
    exact congrArg Settings.quiet (settings_recordCommand m command code output errors)
  | recordEnd command status output errors =>
    exact congrArg Settings.quiet (settings_recordCommand m command status.code? output errors)
  | startSpinner message => exact congrArg Settings.quiet (settings_startSpinner m message)
  | finishSpinner message => exact congrArg Settings.quiet (settings_finishSpinner m message)
  | failSpinner message => exact congrArg Settings.quiet (settings_failSpinner m message)
  | stopSpinner | setForwards on | setQuiet on => rfl

/-- Calls one after the other add what each of them adds. -/
theorem adds_performAll (m : Machine) (calls : List (String × LogCall)) :
    Adds (written calls)
      (echoed m.log.coloured m.log.verbosity m.log.quiet (calls.map Prod.snd))
      m (m.performAll calls) := by
  induction calls generalizing m with
  | nil => exact .refl m
  | cons call calls ih =>
    have first := adds_perform (m.atTime call.1) call.2
    have rest := ih ((m.atTime call.1).perform call.2)
    rw [first.coloured, first.verbosity, quiet_perform] at rest
    have both := first.trans rest
    exact ⟨both.path, both.verbosity, both.coloured, both.files, both.console⟩

end Machine

end EmbeddedPython
