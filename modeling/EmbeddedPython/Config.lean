import EmbeddedPython.Report
import EmbeddedPython.Machine
import EmbeddedPython.Toml.Reader

/-!
# Settings of a host

A `Config` says which installation a host embeds and how it bootstraps its
package installer.  Settings are kept in a TOML file.

* `Config.ofEntries` reads the settings out of a document, and
  `Config.document?` writes one.
* `Config.load` and `Config.save` do so with a file, and `Config.path?` says
  which file that is by default.
-/

namespace EmbeddedPython

/-- The settings of a host. -/
structure Config where
  root : Path
  /-- An explicit series.  Without one the root names it. -/
  version : Option String
  bootstrapScript : String
  /-- How long the bootstrap script may run, in seconds. -/
  bootstrapTimeout : UInt64
  /-- The interpreter's own logging goes into the log file. -/
  forwardsLogging : Bool
deriving Repr, DecidableEq, Inhabited

/-- Why settings could not be loaded or saved. -/
inductive ConfigError where
  | notFound (path : Path)
  | noDirectory
  /-- A text that is no document of settings, with a report on it. -/
  | malformed (report : String)
  /-- A root that no text can hold. -/
  | unwritable
  | file (fault : FileFault)
deriving Repr, DecidableEq

/-- What is told of an error. -/
def ConfigError.report : ConfigError → ConfigReport
  | notFound path => .notFound path
  | noDirectory => .noDirectory
  | malformed report => .parse report
  | unwritable => .serialize "path contains invalid UTF-8 characters"
  | file fault => .io fault.message

namespace Config

/-- The bootstrap script by default. -/
def defaultScript : String := "get-pip.py"

/-- The seconds for the bootstrap script by default. -/
def defaultTimeout : UInt64 := 300

/-- The settings of a root, all others by default. -/
def ofRoot (root : Path) (version : Option String) : Config :=
  ⟨root, version, defaultScript, defaultTimeout, false⟩

/-- The text of a number of seconds. -/
def secondsText (seconds : UInt64) : String :=
  if seconds = 0 then "0ns" else Numeral.text seconds.toNat ++ "s"

/-- The text of the time that the bootstrap script may run. -/
def timeoutText (c : Config) : String :=
  secondsText c.bootstrapTimeout

/-! ## Names -/

/-- The names of the settings, in the order they are written. -/
def rootName : String := "installation_root"

@[inherit_doc rootName]
def versionName : String := "python_version"

@[inherit_doc rootName]
def scriptName : String := "bootstrap_script"

@[inherit_doc rootName]
def timeoutName : String := "bootstrap_timeout_secs"

@[inherit_doc rootName]
def loggingName : String := "log_python"

/-! ## Reading -/

/-- The text of a setting. -/
def stringOf (name : String) : Toml.Value → Except String String
  | .string s => .ok s
  | _ => .error ("invalid type for `" ++ name ++ "`, expected a string")

/-- The truth value of a setting. -/
def booleanOf (name : String) : Toml.Value → Except String Bool
  | .boolean b => .ok b
  | _ => .error ("invalid type for `" ++ name ++ "`, expected a boolean")

/-- The number of a setting. -/
def wordOf (name : String) : Toml.Value → Except String UInt64
  | .integer n =>
    if 0 ≤ n && n < UInt64.size then .ok (UInt64.ofNat n.toNat)
    else .error ("invalid value for `" ++ name ++ "`, expected u64")
  | _ => .error ("invalid type for `" ++ name ++ "`, expected u64")

/-- A setting that may be missing. -/
def setting {α : Type} (es : Toml.Entries) (name : String)
    (read : String → Toml.Value → Except String α) : Except String (Option α) :=
  match es.get? name with
  | none => .ok none
  | some v => (read name v).map some

/-- The settings in a document.  Other names are of no account. -/
def ofEntries (es : Toml.Entries) : Except String Config := do
  let root ← setting es rootName stringOf
  let version ← setting es versionName stringOf
  let script ← setting es scriptName stringOf
  let timeout ← setting es timeoutName wordOf
  let logging ← setting es loggingName booleanOf
  match root with
  | none => .error ("missing field `" ++ rootName ++ "`")
  | some root =>
    return ⟨Path.ofText root, version, script.getD defaultScript,
      timeout.getD defaultTimeout, logging.getD false⟩

/-- The settings in a text. -/
def ofText (text : String) : Except ConfigError Config :=
  let document := text.toList
  match Toml.readDocument document with
  | .error fault => .error (.malformed (fault.report document))
  | .ok es =>
    match ofEntries es with
    | .error message => .error (.malformed ((Toml.Fault.ofWhole document message).report document))
    | .ok c => .ok c

/-! ## Writing -/

/-- A line that gives a value to a name. -/
def line (name : String) (value : List Char) : List Char :=
  name.toList ++ " = ".toList ++ value ++ ['\n']

/-- The document of some settings whose root has the text `root`. -/
def document (c : Config) (root : List Char) : List Char :=
  line rootName (Toml.writeString root)
    ++ (match c.version with
      | some version => line versionName (Toml.writeString version.toList)
      | none => [])
    ++ line scriptName (Toml.writeString c.bootstrapScript.toList)
    ++ line timeoutName (Numeral.decimal c.bootstrapTimeout.toNat)
    ++ line loggingName (if c.forwardsLogging then "true".toList else "false".toList)

/-- The document of some settings, if a text can hold the root. -/
def document? (c : Config) : Option String :=
  (Octets.text? c.root.octets).map fun root => String.ofList (c.document root.toList)

/-! ## Files -/

/-- The directory of settings: an explicit one if it is absolute, or one
below the home directory. -/
def directory? (m : Machine) : Option Path :=
  match (m.environment? "XDG_CONFIG_HOME").map Path.mk with
  | some directory =>
    if directory.isAbsolute then some directory else m.home?.map (· / ".config")
  | none => m.home?.map (· / ".config")

/-- The file of settings: an explicit one, or one in the directory of
settings. -/
def path? (m : Machine) : Except ConfigError Path :=
  let explicit := ((m.environment? "PYHOST_CONFIG").getD [])
  if explicit.isEmpty then
    match directory? m with
    | some directory => .ok (directory / "pyhost" / "config.toml")
    | none => .error .noDirectory
  else .ok ⟨explicit⟩

/-- The settings in a file. -/
def load (m : Machine) (path : Path) : Except ConfigError Config :=
  match m.files.readText path with
  | .error .notFound => .error (.notFound path)
  | .error fault => .error (.file fault)
  | .ok text => ofText text

/-- The settings in the file that holds them by default. -/
def loadDefault (m : Machine) : Except ConfigError Config := do
  load m (← path? m)

/-- The machine with the settings in a file.  Directories in front of the
file are made first, and stay made if the settings cannot be written. -/
def save (c : Config) (m : Machine) (path : Path) : Except ConfigError Unit × Machine :=
  match m.createParent path with
  | .error fault => (.error (.file fault), m.makeParent path)
  | .ok m =>
    match c.document? with
    | none => (.error .unwritable, m)
    | some text =>
      match m.files.write path (Octets.ofText text) with
      | .error fault => (.error (.file fault), m)
      | .ok files => (.ok (), { m with files })

end Config

end EmbeddedPython
