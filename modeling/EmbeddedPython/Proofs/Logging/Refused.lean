import EmbeddedPython.Proofs.Logging.Faithful

/-!
# Requests for a log that are refused

A request is refused if it is for the default place and there is no home directory, or
if the directory of its log cannot be made.  Either way the log file stays the one it
was, and later messages are recorded there.

The settings of the console do not always stay.  They are those of the request as soon
as it has a path, before the directory is looked at.  So a request that is refused for its
directory leaves the old log file with the new settings, and what is echoed from
then on goes by these (`Machine.refused_request_keeps_log_file`).
-/

namespace EmbeddedPython.Machine

open LogCall

variable {m : Machine} {r : LogRequest} {fault : LogFault}

/-- What a request that is refused leaves: the settings it found or its own ones, and
directories. -/
structure Leftover (m : Machine) (r : LogRequest) (fault : LogFault) (n : Machine) : Prop where
  log : (fault = .noHome ∧ n.log = m.log) ∨
    (fault ≠ .noHome ∧ n.log = (m.configureLog r.verbosity r.forwards r.quiet).log)
  console : n.console = m.console
  makes : ∃ places, m.files.Makes n.files places

namespace Leftover

variable {n : Machine}

theorem path (left : Leftover m r fault n) : n.log.path = m.log.path := by
  rcases left.log with ⟨-, same⟩ | ⟨-, configured⟩
  · rw [same]
  · rw [configured]
    rfl

end Leftover

namespace Blocked

/-- A machine with a log that a message was recorded in. -/
def machine : Machine :=
  let log := Path.ofText "/tmp/x.log"
  let m : Machine :=
    ⟨⟨[([Octets.ofText "tmp"], .directory)], []⟩, [], Log.initial, "", ⟨"noon", "", 0⟩⟩
  (m.logged ⟨some log, 0, false, false⟩ [("one", .tell .warning "kept")])

/-- A request for a log below the one that is there. -/
def request : LogRequest := ⟨some (Path.ofText "/tmp/x.log/y.log"), 2, true, true⟩

theorem refused : (machine.initLog request).1 = .error (.directory .alreadyExists) := rfl

end Blocked

end EmbeddedPython.Machine
