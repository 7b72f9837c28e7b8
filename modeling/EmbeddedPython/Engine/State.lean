import EmbeddedPython.Engine.Standard
import EmbeddedPython.Machine
import EmbeddedPython.Steps
import EmbeddedPython.Text.Quoted
import EmbeddedPython.Version

/-!
# The state of the interpreter

An `Engine` holds the namespaces of an interpreter, the modules that were
imported, the search path as far as the host extended it, and where its
logging goes.  A `Workspace` is an engine with the files that programs see, and
a `Run` is a piece of work of the interpreter: it may raise an exception, and
the workspace it leaves behind counts in either case.

* `Engine.global?` is the view: the value of a name in a namespace.
* `Engine.allocate` adds a namespace and `Engine.release` removes one.  No
  other operation changes which namespaces there are.
-/

namespace EmbeddedPython

/-- Where the logging of the interpreter goes. -/
structure Handler where
  path : Path
  threshold : Severity
deriving Repr, DecidableEq

/-- The state of an interpreter. -/
structure Engine where
  /-- What the interpreter says it is. -/
  banner : String
  /-- It is ready once it was told to start. -/
  starts : Bool
  spaces : List (Home × Namespace)
  /-- The imported modules by name. -/
  loaded : List (String × Home)
  /-- The modules whose import is under way. -/
  loading : List Home
  /-- The entries that the search path was extended by. -/
  searchPath : List String
  /-- What programs emitted. -/
  emitted : List Value
  handler : Option Handler
deriving Repr, Inhabited

namespace Engine

/-- The namespace of the names that are bound everywhere. -/
def everywhere : Home := ⟨0⟩

/-- The name of the module that holds these names. -/
def everywhereName : String := "builtins"

/-- The series of the interpreter. -/
def series : Version := ⟨3, some 11⟩

/-- The interpreter before anything ran in it. -/
def initial (banner : String) : Engine where
  banner
  starts := true
  spaces := [(everywhere, Standard.builtins)]
  loaded := [(everywhereName, everywhere)]
  loading := []
  searchPath := []
  emitted := []
  handler := none

/-! ## Namespaces -/

/-- A namespace. -/
def space? (e : Engine) (home : Home) : Option Namespace :=
  e.spaces.lookup home

/-- The value of a name in a namespace. -/
def global? (e : Engine) (home : Home) (name : String) : Option Value :=
  (e.space? home).bind (·.get? name)

/-- The value of a name that is read in a namespace. -/
def resolve? (e : Engine) (home : Home) (name : String) : Option Value :=
  (e.global? home name).or (e.global? everywhere name)

/-- The keys of a namespace that are texts, in order. -/
def names (e : Engine) (home : Home) : List Value :=
  ((e.space? home).map Namespace.names).getD []

/-- A code of a namespace. -/
def code? (e : Engine) (home : Home) (index : Nat) : Option Code :=
  (e.space? home).bind fun ns => ns.codes[index]?

/-- The engine with one namespace changed. -/
def update (e : Engine) (home : Home) (change : Namespace → Namespace) : Engine :=
  { e with spaces := e.spaces.map fun (h, ns) => (h, if h = home then change ns else ns) }

/-- The engine with a key of a namespace bound. -/
def bindKey (e : Engine) (home : Home) (key : Key) (v : Value) : Engine :=
  e.update home (·.set key v)

/-- The engine with a name of a namespace bound. -/
def bindName (e : Engine) (home : Home) (name : String) (v : Value) : Engine :=
  e.bindKey home (.name name) v

/-- The engine with a name of a namespace unbound. -/
def unbind (e : Engine) (home : Home) (name : String) : Engine :=
  e.update home (·.erase name)

theorem space?_update (e : Engine) (home other : Home) (change : Namespace → Namespace) :
    (e.update home change).space? other
      = (e.space? other).map fun ns => if other = home then change ns else ns :=
  Lookup.lookup_map (fun h ns => if h = home then change ns else ns) other e.spaces

/-- A name that was bound has its value. -/
theorem global?_bindName (e : Engine) {home : Home} {ns : Namespace}
    (h : e.space? home = some ns) (name : String) (v : Value) :
    (e.bindName home name v).global? home name = some v := by
  rw [global?, bindName, bindKey, space?_update, h, Option.map_some, if_pos rfl, Option.bind_some,
    Namespace.get?_set]

/-- All other names, here and elsewhere, keep their values. -/
theorem global?_bindName_of_ne (e : Engine) {home other : Home} {name field : String}
    (h : other ≠ home ∨ field ≠ name) (v : Value) :
    (e.bindName home name v).global? other field = e.global? other field := by
  rw [global?, bindName, bindKey, space?_update, global?]
  cases e.space? other with
  | none => rfl
  | some ns =>
    rw [Option.map_some, Option.bind_some, Option.bind_some]
    split
    · next hhome =>
      refine Namespace.get?_set_of_ne ns (fun hkey => ?_) v
      exact h.elim (absurd hhome) (absurd (Key.name.inj hkey))
    · rfl

/-- A home without a namespace: the one behind all that have one. -/
def fresh (e : Engine) : Home :=
  ⟨e.spaces.foldl (fun next s => max next (s.1.index + 1)) 0⟩

theorem index_lt_foldl (spaces : List (Home × Namespace)) (start : Nat) :
    start ≤ spaces.foldl (fun next s => max next (s.1.index + 1)) start
      ∧ ∀ s ∈ spaces,
        s.1.index < spaces.foldl (fun next s => max next (s.1.index + 1)) start := by
  induction spaces generalizing start with
  | nil => exact ⟨Nat.le_refl start, fun _ hs => absurd hs List.not_mem_nil⟩
  | cons s rest ih =>
    obtain ⟨hstart, hrest⟩ := ih (max start (s.1.index + 1))
    rw [List.foldl_cons]
    refine ⟨by omega, fun t ht => ?_⟩
    cases List.mem_cons.1 ht with
    | inl h =>
      rw [h]
      omega
    | inr h => exact hrest t h

/-- Nothing is at the fresh home. -/
theorem space?_fresh (e : Engine) : e.space? e.fresh = none := by
  rw [space?, List.lookup_eq_none_iff]
  intro s hs
  have hlt := (index_lt_foldl e.spaces 0).2 s hs
  refine bne_iff_ne.2 fun h => ?_
  rw [← h] at hlt
  exact Nat.lt_irrefl _ hlt

/-- The engine with a namespace at its fresh home. -/
def allocate (e : Engine) (ns : Namespace) : Engine :=
  { e with spaces := e.spaces ++ [(e.fresh, ns)] }

/-- The engine without a namespace. -/
def release (e : Engine) (home : Home) : Engine :=
  { e with spaces := e.spaces.filter fun s => s.1 != home }

theorem space?_allocate (e : Engine) (ns : Namespace) :
    (e.allocate ns).space? e.fresh = some ns :=
  Lookup.lookup_behind e.space?_fresh ns

theorem space?_allocate_of_ne (e : Engine) {home : Home} (h : home ≠ e.fresh)
    (ns : Namespace) : (e.allocate ns).space? home = e.space? home :=
  Lookup.lookup_behind_of_ne h ns e.spaces

theorem space?_release (e : Engine) (home : Home) : (e.release home).space? home = none :=
  Lookup.lookup_without home e.spaces

theorem space?_release_of_ne (e : Engine) {home other : Home} (h : other ≠ home) :
    (e.release home).space? other = e.space? other :=
  Lookup.lookup_without_of_ne h e.spaces

/-! ## Modules -/

/-- The imported module of a name. -/
def module? (e : Engine) (name : String) : Option Home :=
  e.loaded.lookup name

/-- The engine with a module that is being imported. -/
def startLoading (e : Engine) (name : String) (home : Home) : Engine :=
  { e with loaded := (name, home) :: e.loaded, loading := home :: e.loading }

/-- The engine with a module whose import came to an end. -/
def finishLoading (e : Engine) (home : Home) : Engine :=
  { e with loading := e.loading.filter (· != home) }

/-- The engine without a module whose import failed. -/
def abandonLoading (e : Engine) (name : String) (home : Home) : Engine :=
  { e.finishLoading home with loaded := e.loaded.filter fun m => m.1 != name }

/-! ## Output -/

/-- The engine after a value was emitted. -/
def emit (e : Engine) (v : Value) : Engine :=
  { e with emitted := e.emitted ++ [v] }

/-- The engine with the search path one entry longer. -/
def extendPath (e : Engine) (entry : String) : Engine :=
  { e with searchPath := e.searchPath ++ [entry] }

end Engine

/-- What programs work on. -/
structure Workspace where
  files : FileSystem
  engine : Engine
  clock : Clock
deriving Repr, Inhabited

/-- A piece of work of the interpreter. -/
abbrev Run (α : Type) := ExceptT Raised (Steps Workspace) α

namespace Run

/-- The state of the interpreter. -/
def engine : Run Engine := do
  return (← get).engine

/-- Work that is no more than an answer. -/
def ofExcept {α : Type} : Except Raised α → Run α
  | .ok a => return a
  | .error e => throw e

/-- Changes the state of the interpreter. -/
def change (f : Engine → Engine) : Run Unit :=
  modify fun s => { s with engine := f s.engine }

/-- Adds a namespace. -/
def allocate (ns : Namespace) : Run Home := do
  let home := (← engine).fresh
  change (·.allocate ns)
  return home

/-- The files. -/
def files : Run FileSystem := do
  return (← get).files

/-- Sends a message to the logging of the interpreter. -/
def log (severity : Severity) (message : String) : Run Unit :=
  modify fun w =>
    match w.engine.handler with
    | none => w
    | some handler =>
      if severity.rank < handler.threshold.rank then w
      else
        let record := ⟨.interpreter, severity.name ++ " " ++ message⟩
        { w with files := w.files.record handler.path w.clock.stamp record }

end Run

/-! ## Exceptions -/

namespace Raised

/-- The line that tells of an exception: its type, and its text if there is one. -/
def line (e : Raised) : String :=
  if e.text.isEmpty then e.kind else e.kind ++ ": " ++ e.text

/-- A name that is not bound. -/
def unbound (name : String) : Raised :=
  ⟨"NameError", "name '" ++ name ++ "' is not defined"⟩

/-- The type of the exception that a fault of a file is. -/
def fileKind : FileFault → String
  | .notFound => "FileNotFoundError"
  | .accessDenied => "PermissionError"
  | .alreadyExists => "FileExistsError"
  | .notDirectory => "NotADirectoryError"
  | .isDirectory => "IsADirectoryError"
  | .zeroOctet => "ValueError"
  | .notText => "UnicodeDecodeError"
  | .badFormat | .nameTooLong | .tooManyLevels => "OSError"

/-- An operation on a file that failed. -/
def ofFile (path : String) (fault : FileFault) : Raised :=
  let text := match fault, fault.ofSystem? with
    | _, some (number, words) =>
      "[Errno " ++ Numeral.text number ++ "] " ++ words ++ ": " ++ Quoted.single path
    | .zeroOctet, none => "embedded null byte"
    | _, none => fault.message
  ⟨fileKind fault, text⟩

/-- Calls or imports that go too deep. -/
def tooDeep : Raised :=
  ⟨"RecursionError", "maximum recursion depth exceeded"⟩

end Raised

end EmbeddedPython
