import EmbeddedPython.Path
import EmbeddedPython.Text.Quoted

/-!
# Reports of errors

A `Report` is what is told of an error: its kind and its texts.  `Report.text`
is the sentence for people, and `Report.quoted` shows kind and texts apart.
-/

namespace EmbeddedPython

/-- What is told of an error about settings. -/
inductive ConfigReport where
  | notFound (path : Path)
  | noDirectory
  | parse (message : String)
  | serialize (message : String)
  | io (message : String)
deriving Repr, DecidableEq

/-- What is told of an error. -/
inductive Report where
  | configuration (message : String)
  | libraryNotFound (root : Path) (expected : String)
  | libraryLoad (message : String)
  | interpreterInit (message : String)
  | alreadyInitialized
  | notInitialized
  | reentrant
  | compilation (scope message : String)
  | execution (scope message : String)
  | importing (module message : String)
  | invalidCast (target found : String)
  | marshal (message : String)
  | bootstrap (root : Path) (message : String)
  | python (message : String)
  | io (message : String)
  | config (report : ConfigReport)
deriving Repr, DecidableEq

/-! ## Sentences -/

/-- The sentence for an error about settings. -/
def ConfigReport.text : ConfigReport → String
  | notFound path => "Config file not found: " ++ path.display
  | noDirectory => "Could not determine config directory"
  | parse message => "Failed to parse config: " ++ message
  | serialize message => "Failed to serialize config: " ++ message
  | io message => "IO error: " ++ message

/-- The sentence for an error. -/
def Report.text : Report → String
  | configuration message => "Configuration error: " ++ message
  | libraryNotFound root expected =>
    "Python library " ++ expected ++ " not found in " ++ root.display
  | libraryLoad message => "Unable to load library: " ++ message
  | interpreterInit message => "Failed to initialize Python interpreter: " ++ message
  | alreadyInitialized => "Python interpreter is already initialized in this process"
  | notInitialized => "Python interpreter is not initialized"
  | reentrant => "Interpreter lock is already held by this thread"
  | compilation scope message => "Failed to compile '" ++ scope ++ "': " ++ message
  | execution scope message => "Execution failed in '" ++ scope ++ "': " ++ message
  | importing module message => "Failed to import module '" ++ module ++ "': " ++ message
  | invalidCast target found => "Cannot convert Python '" ++ found ++ "' to " ++ target
  | marshal message => "Cannot marshal parameter: " ++ message
  | bootstrap root message =>
    "Unable to initialise pip, please check the installation at " ++ root.display
      ++ ": " ++ message
  | python message => "Python error: " ++ message
  | io message => "IO error: " ++ message
  | config report => report.text

/-! ## Kinds with their texts -/

/-- The name of the kind of an error about settings. -/
def ConfigReport.kind : ConfigReport → String
  | notFound _ => "NotFound"
  | noDirectory => "NoConfigDir"
  | parse _ => "Parse"
  | serialize _ => "Serialize"
  | io _ => "Io"

namespace Report

/-- The name of the kind of an error. -/
def kind : Report → String
  | configuration _ => "Configuration"
  | libraryNotFound _ _ => "LibraryNotFound"
  | libraryLoad _ => "LibraryLoad"
  | interpreterInit _ => "InterpreterInit"
  | alreadyInitialized => "AlreadyInitialized"
  | notInitialized => "NotInitialized"
  | reentrant => "Reentrant"
  | compilation _ _ => "Compilation"
  | execution _ _ => "Execution"
  | importing _ _ => "Import"
  | invalidCast _ _ => "InvalidCast"
  | marshal _ => "Marshal"
  | bootstrap _ _ => "Bootstrap"
  | python _ => "Python"
  | io _ => "Io"
  | config _ => "Config"

/-- A kind with one text. -/
def tagged (kind text : String) : String :=
  kind ++ "(" ++ text ++ ")"

/-- The text that shows what may be missing. -/
def option : Option String → String
  | some text => "Some(" ++ text ++ ")"
  | none => "None"

/-- A kind with named texts. -/
def record (kind : String) (fields : List (String × String)) : String :=
  kind ++ " \x7b "
    ++ String.intercalate ", " (fields.map fun (name, text) => name ++ ": " ++ text)
    ++ " \x7d"

/-- An error of the system that is known by its text alone. -/
def custom (message : String) : String :=
  record "Custom" [("kind", "Other"), ("error", Quoted.double message)]

end Report

/-- An error about settings, shown by kind and texts. -/
def ConfigReport.quoted (r : ConfigReport) : String :=
  match r with
  | notFound path => Report.tagged r.kind path.quoted
  | noDirectory => r.kind
  | parse message | serialize message => Report.tagged r.kind (Quoted.double message)
  | io message => Report.tagged r.kind (Report.custom message)

/-- An error, shown by kind and texts. -/
def Report.quoted (r : Report) : String :=
  match r with
  | alreadyInitialized | notInitialized | reentrant => r.kind
  | configuration message | libraryLoad message | interpreterInit message
  | marshal message | python message =>
    tagged r.kind (Quoted.double message)
  | libraryNotFound root expected =>
    record r.kind [("root", root.quoted), ("expected", Quoted.double expected)]
  | compilation scope message | execution scope message =>
    record r.kind [("scope", Quoted.double scope), ("message", Quoted.double message)]
  | importing module message =>
    tagged r.kind (Quoted.double module ++ ", " ++ Quoted.double message)
  | invalidCast target found =>
    record r.kind [("target", Quoted.double target), ("found", Quoted.double found)]
  | bootstrap root message =>
    record r.kind [("root", root.quoted), ("message", Quoted.double message)]
  | io message => tagged r.kind (custom message)
  | config report => tagged r.kind report.quoted

end EmbeddedPython
