import EmbeddedPython.Text.Numeral

/-!
# Ends of child processes

A child process ends by itself with a code, or is ended by a signal.
`ExitStatus.ofRaw` takes a raw status word of the system apart.
-/

namespace EmbeddedPython

/-- How a child process ended. -/
inductive ExitStatus where
  | exited (code : Nat)
  | signalled (signal : Nat) (dumped : Bool)
deriving Repr, DecidableEq

namespace ExitStatus

/-- The status in a raw status word: the signal is in the low seven bits, a
dumped core in the eighth, and the code above. -/
def ofRaw (word : Nat) : ExitStatus :=
  let signal := word % 128
  if signal = 0 then exited (word / 256 % 256)
  else signalled signal (word / 128 % 2 == 1)

/-- The code of a process that ended by itself. -/
def code? : ExitStatus → Option Int
  | exited code => some code
  | signalled _ _ => none

/-- An end without a complaint. -/
def isSuccess (status : ExitStatus) : Bool :=
  status == exited 0

/-- The names of signals. -/
def signalNames : List (Nat × String) :=
  [(1, "SIGHUP"), (2, "SIGINT"), (3, "SIGQUIT"), (4, "SIGILL"), (5, "SIGTRAP"),
    (6, "SIGABRT"), (7, "SIGBUS"), (8, "SIGFPE"), (9, "SIGKILL"), (10, "SIGUSR1"),
    (11, "SIGSEGV"), (12, "SIGUSR2"), (13, "SIGPIPE"), (14, "SIGALRM"),
    (15, "SIGTERM"), (16, "SIGSTKFLT"), (17, "SIGCHLD"), (18, "SIGCONT"),
    (19, "SIGSTOP"), (20, "SIGTSTP"), (21, "SIGTTIN"), (22, "SIGTTOU"),
    (23, "SIGURG"), (24, "SIGXCPU"), (25, "SIGXFSZ"), (26, "SIGVTALRM"),
    (27, "SIGPROF"), (28, "SIGWINCH"), (29, "SIGIO"), (30, "SIGPWR"), (31, "SIGSYS")]

/-- The text of a status. -/
def text : ExitStatus → String
  | exited code => "exit status: " ++ Numeral.text code
  | signalled signal dumped =>
    let name := match signalNames.lookup signal with
      | some name => " (" ++ name ++ ")"
      | none => ""
    "signal: " ++ Numeral.text signal ++ name ++ (if dumped then " (core dumped)" else "")

end ExitStatus

end EmbeddedPython
