import EmbeddedPython.Path

/-!
# Script files

A script is named by a path that ends in `.py`.  `Script.ofPath` takes the
path apart into the directory that modules are searched in and the name of
the module, after a tilde in front was replaced by the home directory.
-/

namespace EmbeddedPython

/-- A script file and the module that it holds. -/
structure Script where
  file : Path
  directory : Path
  moduleName : String
deriving Repr, DecidableEq

namespace Script

/-- Why a path names no script. -/
inductive Fault where
  | empty
  /-- A path with another ending. -/
  | notScript (path : String)
  /-- A path whose last component has nothing in front of the ending. -/
  | noModule (path : String)
deriving Repr, DecidableEq

/-- What is said about a fault. -/
def Fault.message : Fault → String
  | empty => "Path should not be empty"
  | notScript path =>
    "Invalid path or the path doesn't contain the file name (.py): " ++ path
  | noModule path => "No module name in path: " ++ path

/-- The end of a path to a script. -/
def ending : List Char := ".py".toList

/-- The part of a path behind the tilde that stands for the home directory. -/
def behindTilde? : List Char → Option (List Char)
  | ['~'] => some []
  | '~' :: '/' :: rest => some rest
  | '~' :: '\\' :: rest => some rest
  | _ => none

/-- The path that a text names. -/
def expandHome (home : Option Path) (path : String) : Path :=
  match behindTilde? path.toList, home with
  | some rest, some home => home / String.ofList rest
  | _, _ => Path.ofText path

/-- The script at an expanded path. -/
def ofFile? (file : Path) : Option Script :=
  match file.extension?, file.stem? with
  | some ext, some stem =>
    if ext = Octets.ofText "py" then
      some ⟨file, file.parent?.getD ⟨[]⟩, Octets.lossy stem⟩
    else none
  | _, _ => none

/-- The script that a text names. -/
def ofPath (home : Option Path) (path : String) : Except Fault Script :=
  if path.toList.isEmpty then .error .empty
  else if !ending.isSuffixOf path.toList then .error (.notScript path)
  else
    match ofFile? (expandHome home path) with
    | some script => .ok script
    | none => .error (.noModule path)

/-- The entry of the search path for the directory of a script.  The empty
entry is the working directory. -/
def searchEntry (script : Script) : String :=
  script.directory.display

end Script

end EmbeddedPython
