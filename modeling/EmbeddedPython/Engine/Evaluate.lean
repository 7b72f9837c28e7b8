import EmbeddedPython.Engine.Call
import EmbeddedPython.Program.Names

/-!
# Evaluating expressions

`Run.evaluate` is the value of an expression in a frame.  It follows the form of
the expression; whatever else is started is left to a `Reach`.

Sets, dictionaries, rules that give items, stretches of sequences and what is
given back by functions that go on are known by their types alone: their parts
are evaluated, and the value is an object of the type.
-/

namespace EmbeddedPython.Run

/-- The type of a collection. -/
def collectionType : Collection → String
  | .tuple => "tuple"
  | .list => "list"
  | .set => "set"
  | .dictionary => "dict"
  | .generator => "generator"

/-- The collection of some items. -/
def collect (kind : Collection) (items : List Value) : Except Raised Value :=
  match kind with
  | .tuple => .ok (.tuple items)
  | .list => .ok (.list items)
  | .set =>
    match Value.unhashableItem? items with
    | some typeName => Operation.typeError ("unhashable type: '" ++ typeName ++ "'")
    | none => .ok (.object "set")
  | .dictionary | .generator => .ok (.object (collectionType kind))

/-- Adds a code to a namespace, and gives its number there. -/
def addCode (home : Home) (code : Code) : Run Nat := do
  let number := (((← engine).space? home).map fun ns => ns.codes.length).getD 0
  change (·.update home (·.addCode code))
  return number

/-- A function with a code of its own. -/
def makeFunction (f : Frame) (name : String) (code : Code) : Run Value := do
  let number ← addCode f.home code
  return .function name (.code number) f.home

/-- The names of functions that have none. -/
def namelessName : String := "<lambda>"

/-- The text of a value, converted first. -/
def converted (conversion : Option Char) (v : Value) : String :=
  if conversion = some 'r' || conversion = some 'a' then v.quoted else v.shown

/-- The text that values make together. -/
def joinedText (parts : List Value) : Value :=
  .str (parts.foldl (fun s v => s ++ v.shown) "")

mutual

/-- The value of an expression. -/
def evaluate (r : Reach) (f : Frame) : Expr → Run Value
  | .constant c => return c.value
  | .name n => readName f n
  | .display kind items => do
    let vs ← evaluateItems r f items
    ofExcept (collect kind vs)
  | .entry k v => do
    let key ← evaluate r f k
    let _ ← evaluate r f v
    match key.unhashable? with
    | some typeName => throw ⟨"TypeError", "unhashable type: '" ++ typeName ++ "'"⟩
    | none => return .none
  | .starred e | .spread e | .keyword _ e | .awaiting e => evaluate r f e
  | .member e field => do
    let v ← evaluate r f e
    attributeWith r v field
  | .subscript e index => do
    let v ← evaluate r f e
    let i ← evaluate r f index
    match i with
    | .object "slice" => return .object v.typeName
    | i => ofExcept (Operation.subscript v i)
  | .slice bounds => do
    let _ ← evaluateItems r f bounds
    return .object "slice"
  | .call e args => do
    let v ← evaluate r f e
    let (positional, named) ← evaluateArguments r f args
    r.call v positional named
  | .unary op e => do
    let v ← evaluate r f e
    ofExcept (Operation.unary op v)
  | .binary op a b => do
    let x ← evaluate r f a
    let y ← evaluate r f b
    ofExcept (Operation.binary false op x y)
  | .compare a comparisons others => do
    let v ← evaluate r f a
    compareAll r f v comparisons others
  | .both a b => do
    let v ← evaluate r f a
    if Operation.truth v then evaluate r f b else return v
  | .either a b => do
    let v ← evaluate r f a
    if Operation.truth v then return v else evaluate r f b
  | .conditional c a b => do
    let v ← evaluate r f c
    if Operation.truth v then evaluate r f a else evaluate r f b
  | .binding n e => do
    let v ← evaluate r f e
    bindName f n v
    return v
  | .function signature defaults body => do
    let given ← evaluateDefaults r f defaults
    makeFunction f namelessName
      ⟨false, signature, given, signature.names, [.returning (some body)]⟩
  | .comprehension kind _ parts => do
    evaluateSource r f parts
    return .object (collectionType kind)
  | .template parts => do
    let vs ← evaluateItems r f parts
    return joinedText vs
  | .formatted e conversion format => do
    let v ← evaluate r f e
    match format with
    | some spec => do
      let _ ← evaluate r f spec
      return .str (converted conversion v)
    | none => return .str (converted conversion v)
  | .yielding _ => return .none

/-- The values of items, some of which may stand for several. -/
def evaluateItems (r : Reach) (f : Frame) : List Expr → Run (List Value)
  | [] => return []
  | .starred e :: rest => do
    let v ← evaluate r f e
    let vs ← ofExcept (Operation.items v)
    let more ← evaluateItems r f rest
    return vs ++ more
  | e :: rest => do
    let v ← evaluate r f e
    let more ← evaluateItems r f rest
    return v :: more

/-- The arguments of a call, by position and by name. -/
def evaluateArguments (r : Reach) (f : Frame) :
    List Expr → Run (List Value × List (String × Value))
  | [] => return ([], [])
  | .starred e :: rest => do
    let v ← evaluate r f e
    let vs ← ofExcept (Operation.items v)
    let (positional, named) ← evaluateArguments r f rest
    return (vs ++ positional, named)
  | .keyword n e :: rest => do
    let v ← evaluate r f e
    let (positional, named) ← evaluateArguments r f rest
    return (positional, (n, v) :: named)
  | .spread e :: rest => do
    let _ ← evaluate r f e
    evaluateArguments r f rest
  | e :: rest => do
    let v ← evaluate r f e
    let (positional, named) ← evaluateArguments r f rest
    return (v :: positional, named)

/-- The default values of parameters. -/
def evaluateDefaults (r : Reach) (f : Frame) : List Expr → Run (List (String × Value))
  | [] => return []
  | .keyword n e :: rest => do
    let v ← evaluate r f e
    let more ← evaluateDefaults r f rest
    return (n, v) :: more
  | _ :: rest => evaluateDefaults r f rest

/-- The outcome of comparisons of a value with others in a row. -/
def compareAll (r : Reach) (f : Frame) (a : Value) : List Comparison → List Expr → Run Value
  | c :: comparisons, e :: rest => do
    let b ← evaluate r f e
    let holds ← ofExcept (Operation.compared c a b)
    if holds && !rest.isEmpty then compareAll r f b comparisons rest else return .bool holds
  | _, _ => return .bool true

/-- Looks at the items that a rule starts from. -/
def evaluateSource (r : Reach) (f : Frame) : List Expr → Run Unit
  | _ :: source :: _ => do
    let v ← evaluate r f source
    let _ ← ofExcept (Operation.items v)
    return
  | _ => return

end

end EmbeddedPython.Run
