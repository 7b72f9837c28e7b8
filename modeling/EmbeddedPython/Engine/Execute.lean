import EmbeddedPython.Engine.Evaluate
import EmbeddedPython.Engine.Finder

/-!
# Carrying out statements

`Run.execute` carries out a statement in a frame.  It follows the form of the
statement and says in a `Flow` how the statement ended; calls and imports are
left to a `Reach`.

A call of a function with statements of its own runs them in a frame whose names
are gone afterwards, however the call ends.
-/

namespace EmbeddedPython

/-- How statements ended without an exception. -/
inductive Flow where
  /-- The next statement is to be carried out. -/
  | next
  /-- The loop around ends. -/
  | leave
  /-- The round of the loop around ends. -/
  | proceed
  /-- The function ends with a value. -/
  | returned (v : Value)
deriving Repr, Inhabited

namespace Run

/-- A piece of work with its outcome as a result. -/
def outcome {α : Type} (r : Run α) : Run (Except Raised α) :=
  ExceptT.lift r.run

/-! ## Targets -/

/-- Values that do not fit a row of targets. -/
def wrongUnpacking (text : String) : Raised :=
  ⟨"ValueError", text⟩

/-- The values for a row of targets, of which one may be starred: then there are
so many in front of it and behind it. -/
def unpack (front : Nat) (behind : Option Nat) (v : Value) : Except Raised (List Value) :=
  match Operation.items v with
  | .error _ =>
    Operation.typeError ("cannot unpack non-iterable " ++ Operation.operandName v ++ " object")
  | .ok vs =>
    match behind with
    | none =>
      if vs.length < front then
        .error (wrongUnpacking ("not enough values to unpack (expected " ++ Numeral.text front
          ++ ", got " ++ Numeral.text vs.length ++ ")"))
      else if front < vs.length then
        .error (wrongUnpacking ("too many values to unpack (expected " ++ Numeral.text front
          ++ ")"))
      else .ok vs
    | some behind =>
      if vs.length < front + behind then
        .error (wrongUnpacking ("not enough values to unpack (expected at least "
          ++ Numeral.text (front + behind) ++ ", got " ++ Numeral.text vs.length ++ ")"))
      else
        let rest := vs.drop front
        .ok (vs.take front ++ [.list (rest.take (rest.length - behind))]
          ++ rest.drop (rest.length - behind))

/-- A target that takes several values. -/
def isStarred : Expr → Bool
  | .starred _ => true
  | _ => false

/-- The values for targets in a row. -/
def valuesFor (targets : List Expr) (v : Value) : Except Raised (List Value) :=
  match targets.findIdx? isStarred with
  | none => unpack targets.length none v
  | some i => unpack i (some (targets.length - i - 1)) v

/-- Binds a field of a value.  Only modules are changed. -/
def bindField (v : Value) (field : String) (x : Value) : Run Unit := do
  match v with
  | .module home => change (·.bindName home field x)
  | .function _ _ _ => return
  | v => throw (missing v field)

/-- Binds an item of a value. -/
def bindItem (v : Value) : Run Unit := do
  match v.core with
  | .list _ | .byteArray _ | .object _ => return
  | _ =>
    throw ⟨"TypeError", "'" ++ Operation.operandName v
      ++ "' object does not support item assignment"⟩

mutual

/-- Binds a target to a value. -/
def bindTarget (r : Reach) (f : Frame) : Expr → Value → Run Unit
  | .name n, v => bindName f n v
  | .member e field, v => do
    let owner ← evaluate r f e
    bindField owner field v
  | .subscript e i, _ => do
    let owner ← evaluate r f e
    let _ ← evaluate r f i
    bindItem owner
  | .display _ targets, v => do
    let vs ← ofExcept (valuesFor targets v)
    bindTargets r f targets vs
  | .starred e, v => bindTarget r f e v
  | _, _ => return

/-- Binds targets to values, one to one. -/
def bindTargets (r : Reach) (f : Frame) : List Expr → List Value → Run Unit
  | e :: rest, v :: vs => do
    bindTarget r f e v
    bindTargets r f rest vs
  | _, _ => return

end

/-- Binds all of some targets to a value. -/
def bindAll (r : Reach) (f : Frame) (v : Value) : List Expr → Run Unit
  | [] => return
  | e :: rest => do
    bindTarget r f e v
    bindAll r f v rest

mutual

/-- Unbinds a target. -/
def deleteTarget (r : Reach) (f : Frame) : Expr → Run Unit
  | .name n => deleteName f n
  | .member e field => do
    let v ← evaluate r f e
    match v with
    | .module home =>
      if ((← engine).global? home field).isNone then throw ⟨"AttributeError", field⟩
      change (·.unbind home field)
    | v => throw (missing v field)
  | .subscript e i => do
    let _ ← evaluate r f e
    let _ ← evaluate r f i
    return
  | .display _ targets => deleteTargets r f targets
  | _ => return

/-- Unbinds targets in a row. -/
def deleteTargets (r : Reach) (f : Frame) : List Expr → Run Unit
  | [] => return
  | e :: rest => do
    deleteTarget r f e
    deleteTargets r f rest

end

/-! ## Types of names -/

/-- The name under which a program keeps the types of its names. -/
def typesName : String := "__annotations__"

/-- Makes room for the types that a program gives to names. -/
def prepareTypes (f : Frame) : Run Unit := do
  if ((← engine).global? f.home typesName).isNone then
    bindName f typesName (.object "dict")

/-- Keeps the type of a target that is a name. -/
def noteType (f : Frame) (target : Expr) : Run Unit := do
  match target with
  | .name _ => bindItem (← readName f typesName)
  | _ => return

/-! ## Imports -/

/-- The module that an import names, seen from a namespace.  With dots in front,
the name is one of the package that the namespace belongs to. -/
def absoluteName (home : Home) (level : Nat) (module : String) : Run String := do
  if level = 0 then return module
  let package := match (← engine).global? home "__package__" with
    | some (.str s) => s
    | _ => ""
  if package.isEmpty then
    throw ⟨"ImportError", "attempted relative import with no known parent package"⟩
  match (List.range (level - 1)).foldl (fun p _ => p.bind ModuleName.parent?) (some package) with
  | none => throw ⟨"ImportError", "attempted relative import beyond top-level package"⟩
  | some base => return if module.isEmpty then base else base ++ "." ++ module

/-- A name that a module does not have. -/
def notImported (e : Engine) (home : Home) (module name : String) : Raised :=
  let place := match e.global? home "__file__" with
    | some (.str path) => path
    | _ => "unknown location"
  let text := if e.loading.contains home then
      "' from partially initialized module '" ++ module
        ++ "' (most likely due to a circular import) (" ++ place ++ ")"
    else "' from '" ++ module ++ "' (" ++ place ++ ")"
  ⟨"ImportError", "cannot import name '" ++ name ++ text⟩

/-- Something that is imported from a module: one of its names, or a module in
it. -/
def importedValue (r : Reach) (home : Home) (module name : String) : Run Value := do
  match (← engine).global? home name with
  | some v => return v
  | none =>
    if ((← engine).global? home "__path__").isSome then
      match ← outcome (r.importModule (module ++ "." ++ name)) with
      | .ok inner => return .module inner
      | .error e =>
        if e.isOf "ModuleNotFoundError" then throw (notImported (← engine) home module name)
        else throw e
    else if Standard.provides module then return .builtin name
    else throw (notImported (← engine) home module name)

/-- A name that starts with an underscore. -/
def isPrivate (name : String) : Bool :=
  name.toList.head? = some '_'

/-- Binds what is imported from a module. -/
def bindImported (r : Reach) (f : Frame) (home : Home) (module : String) :
    List Imported → Run Unit
  | [] => return
  | i :: rest => do
    let v ← importedValue r home module i.name
    bindName f i.boundName v
    bindImported r f home module rest

/-- Binds all names of a module that are not private. -/
def bindPublic (f : Frame) (home : Home) : Run Unit := do
  let entries := (((← engine).space? home).map Namespace.entries).getD []
  for (key, v) in entries do
    if let some name := key.name? then
      if !isPrivate name then bindName f name v

/-- Imports a module as a statement does. -/
def importAs (r : Reach) (f : Frame) (i : Imported) : Run Unit := do
  let home ← r.importModule i.name
  match i.localName with
  | some _ => bindName f i.moduleName (.module home)
  | none =>
    let top ← r.importModule (ModuleName.head i.name)
    bindName f i.moduleName (.module top)

/-! ## Files -/

/-- Makes a text all there is in a file. -/
def writeFile (path text : String) : Run Unit := do
  let result ← modifyGet fun w =>
    match w.files.write (Path.ofText path) (Octets.ofText text) with
    | .ok files => (.ok (), { w with files })
    | .error fault => (.error (Raised.ofFile path fault), w)
  ofExcept result

/-! ## Statements -/

/-- The names of the module that a name is bound to. -/
def namesOf (v : Value) : Run (List Value) := do
  match v with
  | .module home => return (← engine).names home
  | _ => throw ⟨"TypeError", "vars() argument must have __dict__ attribute"⟩

/-- The most rounds of a loop. -/
def mostRounds : Nat := 1000000

/-- Rounds of a loop up to the one that says how the loop ends. -/
def rounds (round : Run (Option Flow)) : Nat → Run Flow
  | 0 => return .next
  | left + 1 => do
    match ← round with
    | some flow => return flow
    | none => rounds round left

/-- How a round goes on: a loop that is left ends without its last block. -/
def afterRound : Flow → Option Flow
  | .next | .proceed => none
  | .leave => some .next
  | .returned v => some (.returned v)

/-- Rounds of a loop over values, and its last block unless it was left. -/
def overValues (body : Value → Run Flow) (last : Run Flow) : List Value → Run Flow
  | [] => last
  | v :: rest => do
    match afterRound (← body v) with
    | some flow => return flow
    | none => overValues body last rest

/-- A handler for a type is for an exception. -/
def handles (type : Value) (e : Raised) : Except Raised Bool :=
  let refused : Raised :=
    ⟨"TypeError", "catching classes that do not inherit from BaseException is not allowed"⟩
  let one : Value → Except Raised Bool
    | .type kind => if Raised.isKind kind then .ok (e.isOf kind) else .error refused
    | _ => .error refused
  match type with
  | .tuple types => types.anyM one
  | type => one type

/-- A value that contexts cannot be made of. -/
def notContext (v : Value) : Raised :=
  ⟨"TypeError", "'" ++ Operation.operandName v
    ++ "' object does not support the context manager protocol"⟩

/-- Calls decorators, the last one first. -/
def decorate (r : Reach) (v : Value) : List Value → Run Value
  | [] => return v
  | d :: rest => do
    let inner ← decorate r v rest
    r.call d [inner] []

mutual

/-- Carries out a statement. -/
def execute (r : Reach) (f : Frame) : Statement → Run Flow
  | .evaluate e => do
    let _ ← evaluate r f e
    return .next
  | .bind targets e => do
    let v ← evaluate r f e
    bindAll r f v targets
    return .next
  | .update target op e => do
    let old ← evaluate r f target
    let v ← evaluate r f e
    let new ← ofExcept (Operation.binary true op old v)
    bindTarget r f target new
    return .next
  | .annotate target type e => do
    if let some e := e then
      let v ← evaluate r f e
      bindTarget r f target v
    if f.locals.isNone then
      let _ ← evaluate r f type
      noteType f target
    return .next
  | .delete targets => do
    deleteTargets r f targets
    return .next
  | .raising none => do
    match f.handled with
    | some e => throw e
    | none => throw ⟨"RuntimeError", "No active exception to reraise"⟩
  | .raising (some e) => do
    let v ← evaluate r f e
    raiseValue v
  | .require c text => do
    let v ← evaluate r f c
    if Operation.truth v then return .next
    match text with
    | none => throw ⟨"AssertionError", ""⟩
    | some e => do
      let said ← evaluate r f e
      throw ⟨"AssertionError", said.shown⟩
  | .importModule i => do
    importAs r f i
    return .next
  | .importFrom level module names => do
    let name ← absoluteName f.home level module
    let home ← r.importModule name
    if names.isEmpty then bindPublic f home else bindImported r f home name names
    return .next
  | .returning none => return .returned .none
  | .returning (some e) => do
    let v ← evaluate r f e
    return .returned v
  | .leave => return .leave
  | .proceed => return .proceed
  | .branch c body other => do
    let v ← evaluate r f c
    if Operation.truth v then executeAll r f body else executeAll r f other
  | .loop c body other =>
    rounds (do
      let v ← evaluate r f c
      if Operation.truth v then return afterRound (← executeAll r f body)
      else return some (← executeAll r f other)) mostRounds
  | .each _ target source body other => do
    let v ← evaluate r f source
    let vs ← ofExcept (Operation.items v)
    overValues (fun v => do
      bindTarget r f target v
      executeAll r f body) (executeAll r f other) vs
  | .attempt body handlers other last => do
    let result ← outcome do
      match ← outcome (executeAll r f body) with
      | .ok .next => executeAll r f other
      | .ok flow => return flow
      | .error e => handle r f e handlers
    match ← executeAll r f last with
    | .next => ofExcept result
    | flow => return flow
  | .handler _ _ _ | .declare _ _ | .idle | .breakTraceback => return .next
  | .within _ contexts _ => do
    match contexts with
    | (e, _) :: _ => do
      let v ← evaluate r f e
      throw (notContext v)
    | [] => return .next
  | .define head body => do
    let decorators ← evaluateItems r f head.decorators
    let given ← evaluateDefaults r f head.defaults
    let _ ← evaluateItems r f head.types
    let code : Code :=
      ⟨head.asynchronous, head.signature, given, Statement.localNames head.signature body, body⟩
    let v ← makeFunction f head.name code
    bindName f head.name (← decorate r v decorators)
    return .next
  | .defineClass name bases decorators body => do
    let decorators ← evaluateItems r f decorators
    let _ ← evaluateArguments r f bases
    let space ← allocate .empty
    let result ← outcome (executeAll r
      ⟨f.home, some ⟨space, (Statement.nameUsesIn body).filterMap NameUse.bound?⟩, f.handled⟩ body)
    change (·.release space)
    let _ ← ofExcept result
    bindName f name (← decorate r (.type name) decorators)
    return .next
  | .defineAs name routine => do
    bindName f name (.function name routine.behaviour f.home)
    return .next
  | .emit e => do
    let v ← evaluate r f e
    change (·.emit v)
    return .next
  | .emitGlobals => do
    let names := (← engine).names f.home
    change (·.emit (.list names))
    return .next
  | .emitNames e => do
    let v ← evaluate r f e
    let names ← namesOf v
    change (·.emit (.list names))
    return .next
  | .globalKey v => do
    let key ← ofExcept (Key.ofValue v)
    change (·.update f.home (·.noteKey key (Key.derivedType? v)))
    change (·.bindKey f.home key (.int 1))
    return .next
  | .log level text => do
    match Severity.ofFunction? level with
    | some severity => log severity text
    | none => throw ⟨"AttributeError", "module 'logging' has no attribute '" ++ level ++ "'"⟩
    return .next
  | .writeFile path text => do
    writeFile path text
    return .next

/-- Carries out statements in order, up to the first one that does not lead to
the next. -/
def executeAll (r : Reach) (f : Frame) : List Statement → Run Flow
  | [] => return .next
  | s :: rest => do
    match ← execute r f s with
    | .next => executeAll r f rest
    | flow => return flow

/-- What the first handler for an exception does about it. -/
def handle (r : Reach) (f : Frame) (e : Raised) : List Statement → Run Flow
  | [] => throw e
  | .handler type name body :: rest => do
    let found ← match type with
      | none => pure true
      | some t => do
        let v ← evaluate r f t
        ofExcept (handles v e)
    if found then
      if let some n := name then bindName f n (.exception e)
      let result ← outcome (executeAll r { f with handled := some e } body)
      if let some n := name then change (·.unbind (f.homeOf n) n)
      ofExcept result
    else handle r f e rest
  | _ :: rest => handle r f e rest

end

/-! ## Programs -/

/-- The name under which a program keeps what it says about itself. -/
def summaryName : String := "__doc__"

/-- Carries out the statements of a program in a namespace. -/
def executeProgram (r : Reach) (home : Home) (program : List Statement) : Run Unit := do
  let f := Frame.ofHome home
  if Statement.annotatesIn program then prepareTypes f
  if let some c := Statement.summary? program then bindName f summaryName c.value
  let _ ← executeAll r f program

/-! ## Calls of functions with statements of their own -/

/-- Names between quotes, with commas and a word between them. -/
def enumerated : List String → String
  | [] => ""
  | [a] => "'" ++ a ++ "'"
  | [a, b] => "'" ++ a ++ "' and '" ++ b ++ "'"
  | names =>
    String.intercalate ", " (names.dropLast.map fun n => "'" ++ n ++ "'") ++ ", and '"
      ++ names.getLast?.getD "" ++ "'"

/-- The names of parameters, with the arguments that they have. -/
structure Bound where
  bound : List (String × Value)
  rest : List Value

/-- Arguments that a function does not take. -/
def wrongCall {α : Type} (name text : String) : Except Raised α :=
  .error ⟨"TypeError", name ++ "() " ++ text⟩

/-- Complaint about arguments that are missing. -/
def missingArguments {α : Type} (name kind : String) (names : List String) : Except Raised α :=
  wrongCall name ("missing " ++ Numeral.text names.length ++ " required " ++ kind ++ " argument"
    ++ (if names.length = 1 then "" else "s") ++ ": " ++ enumerated names)

/-- The names of a call and their values. -/
def bindArguments (name : String) (code : Code) (args : List Value)
    (named : List (String × Value)) : Except Raised (List (String × Value)) := do
  let s := code.signature
  let taken := s.positional.zip args
  for (n, _) in named do
    if (taken.map Prod.fst).contains n then
      wrongCall name ("got multiple values for argument '" ++ n ++ "'")
    if !(s.positional ++ s.further).contains n && s.others.isNone then
      wrongCall name ("got an unexpected keyword argument '" ++ n ++ "'")
  let extra := args.drop s.positional.length
  if !extra.isEmpty && s.rest.isNone then
    let optional := (s.positional.filter fun n => (code.defaults.lookup n).isSome).length
    let count := if optional = 0 then Numeral.text s.positional.length
      else "from " ++ Numeral.text (s.positional.length - optional) ++ " to "
        ++ Numeral.text s.positional.length
    wrongCall name ("takes " ++ count ++ " positional argument"
      ++ (if s.positional.length = 1 && optional = 0 then "" else "s") ++ " but "
      ++ Numeral.text args.length ++ (if args.length = 1 then " was" else " were") ++ " given")
  let given := taken ++ named.filter fun (n, _) => (s.positional ++ s.further).contains n
  let isMissing (n : String) : Bool := ((given ++ code.defaults).lookup n).isNone
  let lacking := s.positional.filter isMissing
  if !lacking.isEmpty then missingArguments name "positional" lacking
  let lackingByName := s.further.filter isMissing
  if !lackingByName.isEmpty then missingArguments name "keyword-only" lackingByName
  return given ++ code.defaults.filter (fun (n, _) => (given.lookup n).isNone)
    ++ s.rest.toList.map (fun n => (n, .tuple extra))
    ++ s.others.toList.map fun n => (n, .object "dict")

/-- Runs a code with arguments. -/
def runCode (r : Reach) (name : String) (home : Home) (code : Code) (args : List Value)
    (named : List (String × Value)) : Run Value := do
  let bound ← ofExcept (bindArguments name code args named)
  if code.asynchronous then return .object "coroutine"
  let space ← allocate (.ofList bound)
  let result ← outcome (executeAll r ⟨home, some ⟨space, code.locals⟩, none⟩ code.body)
  change (·.release space)
  match ← ofExcept result with
  | .returned v => return v
  | _ => return .none

/-- Calls a value. -/
def callWith (r : Reach) (f : Value) (args : List Value) (named : List (String × Value)) :
    Run Value := do
  match f with
  | .function name behaviour home =>
    match behaviour with
    | .code index =>
      match (← engine).code? home index with
      | some code => runCode r name home code args named
      | none => return .none
    | behaviour =>
      match named with
      | (n, _) :: _ => ofExcept (wrongCall name ("got an unexpected keyword argument '" ++ n ++ "'"))
      | [] => behave r name home behaviour args
  | .type kind => ofExcept (callType kind args)
  | .builtin name => ofExcept (callBuiltin name args)
  | f => throw (notCallable f)

end Run

end EmbeddedPython
