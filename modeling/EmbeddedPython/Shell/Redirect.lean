import EmbeddedPython.Shell.Expand
import EmbeddedPython.Shell.Tools.Condition

/-!
# Redirections

Where the streams of a command go.  A redirection is expanded and then carried
out; one that fails leaves those in front of it as they are.
-/

namespace EmbeddedPython.Shell.Redirect

/-- The way a redirection opens its file. -/
def verb : Opening → String
  | .reading => "open"
  | _ => "create"

/-- Why a file cannot be opened in some way, as the shell says it. -/
def reason (mode : Opening) (fault : FileFault) : String :=
  match fault with
  | .notFound | .notDirectory =>
    if mode = .reading then "No such file" else "Directory nonexistent"
  | fault => String.ofList ((fault.message.toList.takeWhile (· != '(')).dropLast)

/-- The end at a file that cannot be opened. -/
def refuse {α : Type} (mode : Opening) (target : List Char) (why : String) : Act α :=
  Act.refuse ("cannot " ++ verb mode ++ " " ++ String.ofList target ++ ": " ++ why)

/-- The stream that a path of the system names. -/
def deviceStream? (target : List Char) : Option Nat :=
  [("/dev/stdin", 0), ("/dev/stdout", 1), ("/dev/stderr", 2), ("/dev/fd/0", 0), ("/dev/fd/1", 1),
    ("/dev/fd/2", 2)].lookup (String.ofList target)

/-- The channel of a file that is opened for reading. -/
def openForReading (target : List Char) : Act Channel := do
  let files ← Act.files
  match files.locate (pathOf target) with
  | .ok place =>
    match files.node? place with
    | some _ => return .file place .reading 0
    | none => refuse .reading target (reason .reading .notFound)
  | .error fault => refuse .reading target (reason .reading fault)

/-- The channel of a file that is opened for writing, which makes it. -/
def openForWriting (mode : Opening) (target : List Char) : Act Channel := do
  let files ← Act.files
  if mode = .writing && files.isFile (pathOf target) && (← Act.hasOption 'C') then
    refuse mode target "File exists"
  let opened := match mode with
    | .writing | .replacing => files.write (pathOf target) []
    | _ => files.append (pathOf target) []
  match opened, files.locate (pathOf target) with
  | .ok files, .ok place =>
    Act.setFiles files
    return .file place mode 0
  | .error fault, _ | _, .error fault => refuse mode target (reason mode fault)

/-- The channel of a file. -/
def openChannel (mode : Opening) (target : List Char) : Act Channel := do
  if target = Tools.nullDevice then return .nowhere
  else
    match mode with
    | .reading => openForReading target
    | mode => openForWriting mode target

/-- Lets a stream lead to where another one leads. -/
def copyStream (stream source : Nat) : Act Unit := do
  match ← Act.channel? source with
  | some (number, _) => Act.setStream stream number
  | none => Act.refuse (Numeral.text source ++ ": Bad file descriptor")

/-- A redirection whose words are expanded.  A document is expanded when it is
needed. -/
inductive Ready where
  | file (stream : Nat) (mode : Opening) (target : List Char)
  | copy (stream source : Nat)
  | close (stream : Nat)
  | document (stream number : Nat)

/-- The end at a word that names no stream.  It is a mistake in the text, so the
line is the one that was read last. -/
def refuseStream {α : Type} : Act α := do
  Act.changeProcess fun p => { p with line := p.lineRead }
  Act.refuse "Syntax error: Bad fd number"

/-- Expands the words of a redirection. -/
def expand (sub : Command → Act (List Char)) : Redirection → Act Ready
  | .file stream mode target => return .file stream mode (← Expand.textOf sub target)
  | .copy stream source => do
    match ← Expand.textOf sub source with
    | ['-'] => return .close stream
    | [c] =>
      if Numeral.isDigit c then return .copy stream (Numeral.digitValue c)
      else refuseStream
    | _ => refuseStream
  | .document stream number => return .document stream number

/-- Carries a redirection out. -/
def apply (sub : Command → Act (List Char)) : Ready → Act Unit
  | .file stream mode target => do
    match deviceStream? target with
    | some source => copyStream stream source
    | none => Act.setStream stream (← Act.addChannel (← openChannel mode target))
  | .copy stream source => copyStream stream source
  | .close stream => Act.closeStream stream
  | .document stream number => do
    let w := ((← Act.world).documents.lookup number).getD []
    let content ← Expand.textOf sub w
    Act.setStream stream (← Act.addChannel (.pipe (octetsOf content)))

/-- Carries redirections out in their order. -/
def applyAll (sub : Command → Act (List Char)) (changes : List Ready) : Act Unit :=
  changes.forM (apply sub)

end EmbeddedPython.Shell.Redirect
