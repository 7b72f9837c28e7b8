import EmbeddedPython.Engine.Frame
import EmbeddedPython.Engine.Operation

/-!
# Attributes and calls

What a value has and does.  A function looks up names in the namespace in which
it was defined, whoever calls it.

Calls and imports nest, so what one of them may start is a `Reach`: calls and
imports that have one level less below them.  `Run.behave` is a call that runs no
statements.
-/

namespace EmbeddedPython

/-- The calls and imports that may be started: a call of a value with arguments
by position and by name, and the import of a module. -/
structure Reach where
  call : Value → List Value → List (String × Value) → Run Value
  importModule : String → Run Home

namespace Run

/-! ## Attributes -/

/-- An attribute that a module does not have. -/
def missingOfModule (e : Engine) (home : Home) (field : String) : Raised :=
  let text := match e.global? home "__name__" with
    | some (.str name) =>
      let kind := if e.loading.contains home then "partially initialized module" else "module"
      let note := if e.loading.contains home then " (most likely due to a circular import)" else ""
      kind ++ " '" ++ name ++ "' has no attribute '" ++ field ++ "'" ++ note
    | _ => "module has no attribute '" ++ field ++ "'"
  ⟨"AttributeError", text⟩

/-- An attribute that a value does not have. -/
def missing (v : Value) (field : String) : Raised :=
  let owner := match v with
    | .type name => "type object '" ++ name ++ "'"
    | v => "'" ++ Operation.operandName v ++ "' object"
  ⟨"AttributeError", owner ++ " has no attribute '" ++ field ++ "'"⟩

/-- The attributes that every module has beside its names. -/
def moduleAttribute? (field : String) : Option Value :=
  [("__dict__", .object "dict"), ("__class__", .type "module")].lookup field

/-- The attributes that values have by themselves. -/
def ownAttribute? (v : Value) (field : String) : Option Value :=
  match v with
  | .function name _ _ =>
    [("__name__", .str name), ("__qualname__", .str name), ("__doc__", .none),
      ("__dict__", .object "dict"), ("__class__", .type "function"),
      ("__code__", .object "code"), ("__globals__", .object "dict")].lookup field
  | .type name | .builtin name =>
    [("__name__", .str name), ("__qualname__", .str name),
      ("__class__", .type v.typeName)].lookup field
  | _ => if field = "__class__" then some (.type v.typeName) else none

/-- An attribute of a value.  A module may bind a function that is asked for
the attributes it does not have. -/
def attributeWith (r : Reach) (v : Value) (field : String) : Run Value := do
  match v with
  | .module home =>
    let e ← engine
    match (e.global? home field).or (moduleAttribute? field) with
    | some v => return v
    | none =>
      match e.global? home "__getattr__" with
      | some f => r.call f [.str field] []
      | none => throw (missingOfModule e home field)
  | v =>
    match ownAttribute? v field with
    | some found => return found
    | none => throw (missing v field)

/-! ## Exceptions -/

/-- A value that cannot be raised. -/
def notRaisable : Raised :=
  ⟨"TypeError", "exceptions must derive from BaseException"⟩

/-- Raises a value: an exception, or a type of exceptions. -/
def raiseValue {α : Type} (v : Value) : Run α := do
  match v with
  | .exception e => throw e
  | .type kind =>
    if Raised.isKind kind then throw (← ofExcept (Raised.construct kind []))
    else throw notRaisable
  | _ => throw notRaisable

/-! ## Functions and types of the interpreter -/

/-- A call of a value that is no function. -/
def notCallable (v : Value) : Raised :=
  ⟨"TypeError", "'" ++ Operation.operandName v ++ "' object is not callable"⟩

/-- A call of a function of one parameter with another number of arguments. -/
def notSingle (name : String) (count : Nat) : Raised :=
  ⟨"TypeError", name ++ "() takes exactly one argument (" ++ Numeral.text count ++ " given)"⟩

/-- How many items a value has. -/
def lengthOf (v : Value) : Except Raised Value :=
  match v.core with
  | .str s => .ok (.int s.length)
  | .brokenStr => .ok (.int 1)
  | .object name =>
    if ["dict", "set", "frozenset", "range", "memoryview"].contains name then .ok (.int 0)
    else Operation.typeError ("object of type '" ++ Operation.operandName v ++ "' has no len()")
  | _ =>
    match Operation.items v with
    | .ok items => .ok (.int items.length)
    | .error _ =>
      Operation.typeError ("object of type '" ++ Operation.operandName v ++ "' has no len()")

/-- A value can be called. -/
def isCallable : Value → Bool
  | .function _ _ _ | .type _ | .builtin _ => true
  | _ => false

/-- A value is of a type. -/
def isInstance (v : Value) (kind : String) : Bool :=
  kind = "object" || kind = v.typeName || kind = v.core.typeName
    || (kind = "int" && v.core.typeName = "bool")
    || (match v with
      | .exception e => e.isOf kind
      | _ => false)

/-- A function of the interpreter with one argument. -/
def single (name : String) (v : Value) : Except Raised Value :=
  if name = "len" then lengthOf v
  else if name = "repr" || name = "ascii" then .ok (.str v.quoted)
  else if name = "callable" then .ok (.bool (isCallable v))
  else if name = "abs" then
    match Operation.integer? v, v.core with
    | some n, _ => .ok (.int n.natAbs)
    | none, .float x => .ok (.float ⟨(Float.abs (Float.ofBits x.bits)).toBits⟩)
    | none, _ =>
      Operation.typeError ("bad operand type for abs(): '" ++ Operation.operandName v ++ "'")
  else if name = "any" then (Operation.items v).map fun vs => .bool (vs.any Operation.truth)
  else if name = "all" then (Operation.items v).map fun vs => .bool (vs.all Operation.truth)
  else if name = "sum" then do
    (← Operation.items v).foldlM (fun sum v => Operation.binary false .add sum v) (.int 0)
  else .ok (.object "object")

/-- The functions of the interpreter that take exactly one argument. -/
def singles : List String :=
  ["len", "repr", "ascii", "callable", "abs", "any", "all", "hash", "id", "ord", "chr", "bin",
    "oct", "hex"]

/-- A call of a function of the interpreter. -/
def callBuiltin (name : String) (args : List Value) : Except Raised Value :=
  match name, args with
  | "print", _ => .ok .none
  | "globals", [] | "locals", [] => .ok (.object "dict")
  | "isinstance", [v, .type kind] => .ok (.bool (isInstance v kind))
  | name, [v] => single name v
  | name, args =>
    if singles.contains name then .error (notSingle name args.length) else .ok (.object "object")

/-- A value of a type of the interpreter made from at most one value. -/
def convertTo (kind : String) (v : Option Value) : Except Raised Value :=
  match kind, v with
  | "bool", v => .ok (.bool ((v.map Operation.truth).getD false))
  | "str", v => .ok (.str ((v.map Value.shown).getD ""))
  | "list", none => .ok (.list [])
  | "list", some v => (Operation.items v).map .list
  | "tuple", none => .ok (.tuple [])
  | "tuple", some v => (Operation.items v).map .tuple
  | "int", none => .ok (.int 0)
  | "int", some v =>
    match v.index? with
    | some n => .ok (.int n)
    | none => .ok (.object "int")
  | "float", some v =>
    match Operation.double? v with
    | some x => .ok (.float x)
    | none => .ok (.object "float")
  | "float", none => .ok (.float ⟨0⟩)
  | "bytes", none => .ok (.bytes [])
  | "type", some v => .ok (.type v.typeName)
  | kind, _ => .ok (.object kind)

/-- A call of a type. -/
def callType (kind : String) (args : List Value) : Except Raised Value :=
  if Raised.isKind kind then (Raised.construct kind args).map .exception
  else if Standard.otherTypes.contains kind && kind ≠ "object" then convertTo kind args.head?
  else if args.isEmpty then .ok (.object kind)
  else .error ⟨"TypeError", kind ++ "() takes no arguments"⟩

/-! ## Behaviours -/

/-- A call of a function of two parameters with another number of arguments. -/
def wrongCount (name : String) (count : Nat) : Raised :=
  let text := match count with
    | 0 => "() missing 2 required positional arguments: 'x' and 'y'"
    | 1 => "() missing 1 required positional argument: 'y'"
    | n => "() takes 2 positional arguments but " ++ Numeral.text n ++ " were given"
  ⟨"TypeError", name ++ text⟩

/-- Binds a global to the sum of it and one. -/
def increase (inPlace : Bool) (home : Home) (name : String) : Run Value := do
  let v ← lookUp home name
  let sum ← ofExcept (Operation.binary inPlace .add v (.int 1))
  change (·.bindName home name sum)
  return sum

/-- What a function that behaves in a certain way does with its arguments. -/
def behave (r : Reach) (name : String) (home : Home) (behaviour : Behaviour Value)
    (args : List Value) : Run Value :=
  match behaviour with
  | .arguments => return .tuple args
  | .argumentList => return .list args
  | .count => return .int args.length
  | .typeNames => return .list (args.map fun v => .str v.typeName)
  | .nothing | .code _ => return .none
  | .homeName => lookUp home "__name__"
  | .argument index =>
    match Operation.item? args index with
    | some v => return v
    | none => throw ⟨"IndexError", "tuple index out of range"⟩
  | .constant v => return v
  | .emit v => do
    change (·.emit v)
    return .none
  | .raising kind text => do
    let type ← lookUp home kind
    match text with
    | none => raiseValue type
    | some text => raiseValue (← r.call type [.str text] [])
  | .global name => lookUp home name
  | .call name => do
    let f ← lookUp home name
    r.call f args []
  | .increment name => increase true home name
  | .rebind name => increase false home name
  | .pair =>
    match args with
    | [x, y] => return .tuple [x, y]
    | _ => throw (wrongCount name args.length)

end Run

end EmbeddedPython
