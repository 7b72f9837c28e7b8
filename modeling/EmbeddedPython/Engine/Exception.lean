import EmbeddedPython.Engine.Standard
import EmbeddedPython.Value.Text

/-!
# Exceptions

`Raised.construct` makes an exception of a type from arguments, and
`Raised.isOf` tells whether an exception is of a type or of one derived from it.
-/

namespace EmbeddedPython.Raised

/-- A type of exceptions. -/
def isKind (name : String) : Bool :=
  Standard.exceptionTypes.contains name

/-- A type of exceptions is another one or derived from it.  No type is further
from the root than there are types. -/
def descends (kind ancestor : String) : Bool :=
  go (Standard.exceptionTypes.length + 1) kind
where
  /-- The same in so many steps. -/
  go : Nat → String → Bool
    | 0, _ => false
    | steps + 1, kind =>
      kind = ancestor || ((Standard.exceptionParents.lookup kind).map (go steps)).getD false

/-- An exception is of a type. -/
def isOf (e : Raised) (kind : String) : Bool :=
  descends e.kind kind

/-- The types of exceptions that take a certain number of arguments. -/
def strictKinds : List (String × Nat) :=
  [("UnicodeDecodeError", 5), ("UnicodeEncodeError", 5), ("UnicodeTranslateError", 4)]

/-- The types of exceptions that stand for several ones. -/
def groupKinds : List String :=
  ["BaseExceptionGroup", "ExceptionGroup"]

/-- The exceptions that tell of a source that does not compile. -/
def syntaxKinds : List String :=
  ["SyntaxError", "IndentationError", "TabError"]

/-- What an exception of a type says, made from arguments. -/
def textOf (kind : String) (args : List Value) : String :=
  let text := match args with
    | [] => ""
    | [v] => if kind = "KeyError" then v.quoted else v.shown
    | [number, v] =>
      if descends kind "OSError" then "[Errno " ++ number.shown ++ "] " ++ v.shown
      else Value.quoted (.tuple args)
    | _ => Value.quoted (.tuple args)
  if syntaxKinds.contains kind && text.isEmpty then "<no detail available>" else text

/-- A complaint about the arguments of a function. -/
def wrongArguments (function : String) (expected given : Nat) : Raised :=
  ⟨"TypeError", function ++ " takes exactly " ++ Numeral.text expected ++ " arguments ("
    ++ Numeral.text given ++ " given)"⟩

/-- The exception of a type that arguments make. -/
def construct (kind : String) (args : List Value) : Except Raised Raised :=
  match strictKinds.lookup kind with
  | some expected =>
    if args.length = expected then .ok ⟨kind, textOf kind args⟩
    else .error (wrongArguments "function" expected args.length)
  | none =>
    if groupKinds.contains kind && args.length ≠ 2 then
      .error (wrongArguments "BaseExceptionGroup.__new__()" 2 args.length)
    else .ok ⟨kind, textOf kind args⟩

end EmbeddedPython.Raised
