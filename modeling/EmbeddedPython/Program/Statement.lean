import EmbeddedPython.Program.Expr
import EmbeddedPython.Program.Fault

/-!
# Statements

The statements that programs are made of.
-/

namespace EmbeddedPython

/-- What a function is called and with which arguments.  The default values are
given by name; `types` are those of the parameters and of the result. -/
structure FunctionHead where
  name : String
  asynchronous : Bool
  signature : Signature
  defaults : List Expr
  types : List Expr
  decorators : List Expr
deriving Repr, Inhabited

/-- What an import binds: the name of a module or of something in one, and the
name it is bound to if that is another one. -/
structure Imported where
  name : String
  localName : Option String
deriving Repr, DecidableEq, Inhabited

/-- A statement. -/
inductive Statement where
  | evaluate (e : Expr)
  /-- Binds the value of an expression to all targets. -/
  | bind (targets : List Expr) (e : Expr)
  /-- Changes a target by an operation. -/
  | update (target : Expr) (op : BinaryOperator) (e : Expr)
  /-- Notes the type of a target, and binds it if there is a value. -/
  | annotate (target type : Expr) (e : Option Expr)
  | delete (targets : List Expr)
  | raising (e : Option Expr)
  /-- Raises unless a condition holds. -/
  | require (condition : Expr) (text : Option Expr)
  /-- Imports a module and binds its first part, or all of it to another name. -/
  | importModule (module : Imported)
  /-- Imports names from a module; no names stand for all. -/
  | importFrom (level : Nat) (module : String) (names : List Imported)
  /-- Names that are not looked up among those of the function. -/
  | declare (outer : Bool) (names : List String)
  | returning (e : Option Expr)
  | idle
  /-- Ends a loop. -/
  | leave
  /-- Ends one round of a loop. -/
  | proceed
  | branch (condition : Expr) (body otherwise : List Statement)
  | loop (condition : Expr) (body otherwise : List Statement)
  | each (asynchronous : Bool) (target source : Expr) (body otherwise : List Statement)
  /-- Runs a body; the handlers see what it raises, and the last block runs in
  any case. -/
  | attempt (body handlers otherwise last : List Statement)
  /-- What is done about exceptions of a type. -/
  | handler (type : Option Expr) (name : Option String) (body : List Statement)
  /-- Runs a body in contexts, each of which may be bound to a target. -/
  | within (asynchronous : Bool) (contexts : List (Expr × Option Expr)) (body : List Statement)
  /-- Binds a name to a function. -/
  | define (head : FunctionHead) (body : List Statement)
  /-- Binds a name to a class. -/
  | defineClass (name : String) (bases decorators : List Expr) (body : List Statement)
  /-- Binds a name to a function that behaves in a certain way. -/
  | defineAs (name : String) (routine : Routine)
  /-- Appends a value to what was emitted. -/
  | emit (e : Expr)
  /-- Emits the sorted names of the globals. -/
  | emitGlobals
  /-- Emits the sorted names of a module. -/
  | emitNames (e : Expr)
  /-- Stores a global under a key of any type. -/
  | globalKey (key : Value)
  /-- Sends a message to the logging of the interpreter. -/
  | log (level text : String)
  /-- Makes a text all there is in a file. -/
  | writeFile (path text : String)
  /-- Keeps tracebacks from being formatted. -/
  | breakTraceback
deriving Repr, Inhabited

/-- A function with statements of its own: what it is called with, and the
names that belong to a call. -/
structure Code where
  asynchronous : Bool
  signature : Signature
  defaults : List (String × Value)
  locals : List String
  body : List Statement
deriving Repr, Inhabited

end EmbeddedPython
