import EmbeddedPython.Program.Check
import EmbeddedPython.Program.Encoding
import EmbeddedPython.Program.Reader.Statement
import EmbeddedPython.Text.Blank

/-!
# Programs

The source of a program is either a list of clauses, each of which says
what a stretch of the program does, or a text.  `Source.compile` turns a
source into the statements that run in order, or says why it does not
compile.  A program with one faulty clause does not compile at all.

A clause is made from names as a text would hold them: `Clause.assign` and the
others read the statement that the text would be.  So a name counts in its
normal form, and one that is none is a fault.
-/

namespace EmbeddedPython

/-- The statements of a source in UTF-8. -/
def Program.read (octets : Octets) : Except SyntaxFault (List Statement) :=
  if octets.contains 0 then .error .zero else Reading.ofSource octets

/-- The statements of a file. -/
def Program.readFile (octets : Octets) : Except SyntaxFault (List Statement) :=
  if octets.contains 0 then .error .zero
  else
    match Encoding.decode octets with
    | .ok decoded => Reading.ofSource decoded
    | .error f => .error f

/-- The statements of a program that has no other fault. -/
def Program.check (program : List Statement) : Except SyntaxFault (List Statement) :=
  match Check.programFault? program with
  | some f => .error f
  | none => .ok program

/-- A stretch of a program: its statements, or what keeps the program from
compiling. -/
inductive Clause where
  | statements (ss : List Statement)
  | fault (f : SyntaxFault)
deriving Repr, Inhabited

namespace Clause

/-- The clause of what was read. -/
def ofRead : Except SyntaxFault (List Statement) → Clause
  | .ok ss => statements ss
  | .error f => fault f

/-- The clause of a text. -/
def ofText (text : String) : Clause :=
  ofRead (Program.read (Octets.ofText text))

/-- The clause with each of its statements changed. -/
def mapStatements (change : Statement → Statement) : Clause → Clause
  | statements ss => statements (ss.map change)
  | fault f => fault f

/-- A statement with a constant in place of the value that it binds. -/
def withConstant (c : Constant) : Statement → Statement
  | .bind targets _ => .bind targets (.constant c)
  | .update target op _ => .update target op (.constant c)
  | .annotate target type _ => .annotate target type (some (.constant c))
  | s => s

/-- The clause of a constant.  A value that no program holds has no place in one. -/
def ofConstant (v : Value) (clause : Constant → Clause) : Clause :=
  match Constant.ofValue? v with
  | some c => clause c
  | none => fault .invalid

/-- Binds a name to a value. -/
def assign (name : String) (v : Value) : Clause :=
  ofConstant v fun c => (ofText (name ++ " = None")).mapStatements (withConstant c)

/-- Reads a name. -/
def read (name : String) : Clause :=
  ofText name

/-- Unbinds a name. -/
def delete (name : String) : Clause :=
  ofText ("del " ++ name)

/-- A statement that raises an exception of a text. -/
def withText (text : String) : Statement → Statement
  | .raising (some e) => .raising (some (.call e [.constant ⟨.str text, rfl⟩]))
  | s => s

/-- Raises an exception of a type, with a text if there is one. -/
def raising (kind : String) (text : Option String) : Clause :=
  let plain := ofText ("raise " ++ kind)
  match text with
  | some text => plain.mapStatements (withText text)
  | none => plain

/-- Emits a value. -/
def emit (v : Value) : Clause :=
  ofConstant v fun c => statements [.emit (.constant c)]

/-- A statement that does something with an expression in place of computing
it. -/
def applied (change : Expr → Statement) : Statement → Statement
  | .evaluate e => change e
  | s => s

/-- Emits the value of a name. -/
def emitVariable (name : String) : Clause :=
  (read name).mapStatements (applied .emit)

/-- Emits an attribute of the value of a name. -/
def emitAttribute (name field : String) : Clause :=
  emitVariable (name ++ "." ++ field)

/-- Emits the names of the globals. -/
def emitGlobals : Clause :=
  statements [.emitGlobals]

/-- Emits the names of the module that a name is bound to. -/
def emitNames (name : String) : Clause :=
  (read name).mapStatements (applied .emitNames)

/-- Stores a global under any key. -/
def globalKey (key : Value) : Clause :=
  statements [.globalKey key]

/-- Imports a module. -/
def importModule (name : String) : Clause :=
  ofText ("import " ++ name)

/-- Sends a message to the logging of the interpreter. -/
def log (level text : String) : Clause :=
  statements [.log level text]

/-- Makes a text all there is in a file. -/
def writeFile (path text : String) : Clause :=
  statements [.writeFile path text]

/-- A name in its normal form. -/
def normalName (name : String) : Except SyntaxFault String :=
  match Program.read (Octets.ofText name) with
  | .ok [.evaluate (.name n)] => .ok n
  | .ok _ => .ok name
  | .error f => .error f

/-- A behaviour with its names in their normal forms. -/
def normalBehaviour : Behaviour Value → Except SyntaxFault (Behaviour Value)
  | .raising kind text => (normalName kind).map fun n => .raising n text
  | .global name => (normalName name).map .global
  | .call name => (normalName name).map .call
  | .increment name => (normalName name).map .increment
  | .rebind name => (normalName name).map .rebind
  | behaviour => .ok behaviour

/-- Binds a name to a function that behaves in a certain way. -/
def define (name : String) (behaviour : Behaviour Value) : Clause :=
  match normalBehaviour behaviour with
  | .error f => fault f
  | .ok behaviour =>
    match Routine.ofBehaviour? behaviour with
    | none => fault .invalid
    | some routine =>
      (ofText ("def " ++ name ++ "(): pass")).mapStatements fun s =>
        match s with
        | .define head _ => .defineAs head.name routine
        | s => s

/-- Keeps tracebacks from being formatted. -/
def breakTraceback : Clause :=
  statements [.breakTraceback]

end Clause

/-- The source of a program. -/
inductive Source where
  | clauses (cs : List Clause)
  | text (s : String)
deriving Repr, Inhabited

namespace Source

/-- The fault of a clause. -/
def faultOf? : Clause → Option SyntaxFault
  | .fault f => some f
  | .statements _ => none

/-- The statements of a clause. -/
def statementsOf : Clause → List Statement
  | .statements ss => ss
  | .fault _ => []

/-- The statements of a source.  A zero character is seen before any other
fault. -/
def compile : Source → Except SyntaxFault (List Statement)
  | clauses cs =>
    let faults := cs.filterMap faultOf?
    if faults.contains .zero then .error .zero
    else
      match faults with
      | f :: _ => .error f
      | [] => Program.check (cs.flatMap statementsOf)
  | text s => do
    let program ← Program.read (Octets.ofText s)
    Program.check program

/-- A source without anything in it but blank characters. -/
def isBlank : Source → Bool
  | clauses cs => cs.isEmpty
  | text s => Text.isAllBlank s

end Source

end EmbeddedPython
