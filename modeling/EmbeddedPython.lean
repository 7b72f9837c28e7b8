import EmbeddedPython.Call
import EmbeddedPython.HostType.Reader
import EmbeddedPython.Proofs.Bootstrap.Checked
import EmbeddedPython.Proofs.Bootstrap.Deadline
import EmbeddedPython.Proofs.Bootstrap.Executables
import EmbeddedPython.Proofs.Bootstrap.Outcome
import EmbeddedPython.Proofs.Calls.Agreement
import EmbeddedPython.Proofs.Calls.Alias
import EmbeddedPython.Proofs.Calls.Arguments
import EmbeddedPython.Proofs.Calls.FileModule
import EmbeddedPython.Proofs.Calls.Growth
import EmbeddedPython.Proofs.Calls.Isolation
import EmbeddedPython.Proofs.Calls.Rejected
import EmbeddedPython.Proofs.Files.Store
import EmbeddedPython.Proofs.Lifetime.Construction
import EmbeddedPython.Proofs.Lifetime.Once
import EmbeddedPython.Proofs.Logging.Refused
import EmbeddedPython.Proofs.Marshal.Building
import EmbeddedPython.Proofs.Marshal.Failures
import EmbeddedPython.Proofs.Marshal.RoundTrip
import EmbeddedPython.Proofs.Threads.Serial
import EmbeddedPython.Proofs.Version.Canonical
import EmbeddedPython.Proofs.Version.Explicit
