import EmbeddedPython.Program.Names

/-!
# Checks of programs

What a program of the right form may still get wrong: statements and expressions
outside of what they belong into, names that are declared too late, parameters
of the same name.  `Check.programFault?` finds the first such fault.
-/

namespace EmbeddedPython.Check

/-- What a statement stands in. -/
structure Surroundings where
  /-- A function, and whether it is asynchronous. -/
  function : Option Bool
  /-- A class, unless a function is nearer. -/
  inClass : Bool
  loop : Bool
  /-- The names of the functions around. -/
  outer : List String
deriving Repr

/-- Nothing around. -/
def topLevel : Surroundings := ⟨none, false, false, []⟩

/-- The first fault of some. -/
def firstOf (faults : List (Option SyntaxFault)) : Option SyntaxFault :=
  faults.findSome? id

/-! ## Names -/

/-- The name that nothing can be bound to. -/
def fixedName : String := "__debug__"

/-- The fault of a name that something is bound to. -/
def boundNameFault? (n : String) : Option SyntaxFault :=
  if n = fixedName then some (.target fixedName false) else none

/-- The first name that is there twice. -/
def duplicate? : List String → Option String
  | [] => none
  | n :: rest => if rest.contains n then some n else duplicate? rest

/-- The fault of a declaration behind other uses of the name. -/
def declarationFault? (parameters : List String) (before : List NameUse) (outer : Bool)
    (n : String) : Option SyntaxFault :=
  let scope := if outer then "nonlocal" else "global"
  let said (text : String) : Option SyntaxFault := some (SyntaxFault.form text)
  if parameters.contains n then said ("name '" ++ n ++ "' is parameter and " ++ scope)
  else if before.contains (.used n) then
    said ("name '" ++ n ++ "' is used prior to " ++ scope ++ " declaration")
  else if before.contains (.annotated n) then
    said ("annotated name '" ++ n ++ "' can't be " ++ scope)
  else if before.contains (.bound n) then
    said ("name '" ++ n ++ "' is assigned to before " ++ scope ++ " declaration")
  else if before.contains (.declared (!outer) n) then
    said ("name '" ++ n ++ "' is nonlocal and global")
  else none

/-- The first fault of what a function or a program does with names. -/
def nameFault? (s : Surroundings) (parameters : List String) (before : List NameUse) :
    List NameUse → Option SyntaxFault
  | [] => none
  | u :: rest =>
    let fault : Option SyntaxFault := match u with
      | .declared true n =>
        if s.function.isNone && !s.inClass then
          some (.form "nonlocal declaration not allowed at module level")
        else if s.outer.contains n then declarationFault? parameters before true n
        else
          (declarationFault? parameters before true n).or
            (some (.form ("no binding for nonlocal '" ++ n ++ "' found")))
      | .declared false n => declarationFault? parameters before false n
      | .annotated n =>
        if s.function.isSome && (before.contains (.declared false n)) then
          some (.form ("annotated name '" ++ n ++ "' can't be global"))
        else boundNameFault? n
      | .bound n | .imported n => boundNameFault? n
      | .used _ => none
    fault.or (nameFault? s parameters (before ++ [u]) rest)

/-- The fault of parameters. -/
def signatureFault? (signature : Signature) : Option SyntaxFault :=
  match duplicate? signature.names with
  | some n => some (.form ("duplicate argument '" ++ n ++ "' in function definition"))
  | none => signature.names.findSome? boundNameFault?

/-! ## Expressions -/

/-- What a rule that gives items is called in messages. -/
def ruleName : Collection → String
  | .list => "list comprehension"
  | .set => "set comprehension"
  | .dictionary => "dict comprehension"
  | .tuple | .generator => "generator expression"

/-- A starred expression where one item is asked for. -/
def strayStar : SyntaxFault :=
  .form "can't use starred expression here"

/-- The name of an argument by name. -/
def keywordName? : Expr → Option String
  | .keyword n _ => some n
  | _ => none

/-- The fault of what a function gives back while it goes on. -/
def yieldFault? (s : Surroundings) (rule : Option String) : Option SyntaxFault :=
  match rule with
  | some rule => some (.form ("'yield' inside " ++ rule))
  | none => if s.function.isNone then some (.outside "yield" "function") else none

mutual

/-- The first fault of an expression.  `rule` names the rule that it is in. -/
def exprFault? (s : Surroundings) (rule : Option String) : Expr → Option SyntaxFault
  | .constant _ | .name _ => none
  | .display _ items => itemFault? s rule items
  | .entry k v => (exprFault? s rule k).or (exprFault? s rule v)
  | .starred _ => some strayStar
  | .spread e | .member e _ | .unary _ e => exprFault? s rule e
  | .keyword n e => (boundNameFault? n).or (exprFault? s rule e)
  | .subscript e i => (exprFault? s rule e).or (exprFault? s rule i)
  | .slice bounds => itemFault? s rule bounds
  | .call f args =>
    let names := args.filterMap keywordName?
    firstOf [
      (duplicate? names).map fun n => .form ("keyword argument repeated: " ++ n),
      exprFault? s rule f, itemFault? s rule args]
  | .binary _ a b | .both a b | .either a b => (exprFault? s rule a).or (exprFault? s rule b)
  | .compare a _ others => (exprFault? s rule a).or (itemFault? s rule others)
  | .conditional c a b =>
    firstOf [exprFault? s rule c, exprFault? s rule a, exprFault? s rule b]
  | .binding n e => (boundNameFault? n).or (exprFault? s rule e)
  | .function signature defaults body =>
    firstOf [signatureFault? signature, itemFault? s rule defaults,
      exprFault? { s with function := some false, loop := false } none body]
  | .comprehension kind e parts =>
    let inside := some (ruleName kind)
    (exprFault? s inside e).or (itemFault? s inside parts)
  | .template parts => itemFault? s rule parts
  | .formatted e _ (some f) => (exprFault? s rule e).or (exprFault? s rule f)
  | .formatted e _ none => exprFault? s rule e
  | .yielding (some e) => (yieldFault? s rule).or (exprFault? s rule e)
  | .yielding none => yieldFault? s rule
  | .awaiting e =>
    match s.function with
    | none => some (.outside "await" "function")
    | some false => some (.outside "await" "async function")
    | some true => exprFault? s rule e

/-- The same for items, each of which may stand for several. -/
def itemFault? (s : Surroundings) (rule : Option String) : List Expr → Option SyntaxFault
  | [] => none
  | .starred e :: rest => (exprFault? s rule e).or (itemFault? s rule rest)
  | e :: rest => (exprFault? s rule e).or (itemFault? s rule rest)

end

/-- The first fault of an expression that may be missing. -/
def optionalFault? (s : Surroundings) (e : Option Expr) : Option SyntaxFault :=
  e.bind (exprFault? s none)

/-- The first fault of a target. -/
def targetFault? (s : Surroundings) (e : Expr) : Option SyntaxFault :=
  let isStarred : Expr → Bool
    | .starred _ => true
    | _ => false
  match e with
  | .display .tuple items | .display .list items =>
    if 1 < items.countP isStarred then
      some (.form "multiple starred expressions in assignment")
    else itemFault? s none items
  | .member inner n => (boundNameFault? n).or (exprFault? s none inner)
  | e => exprFault? s none e

/-! ## Statements -/

/-- The names that change the language. -/
def features : List String :=
  ["nested_scopes", "generators", "division", "absolute_import", "with_statement",
    "print_function", "unicode_literals", "barry_as_FLUFL", "generator_stop", "annotations"]

/-- The name of the module that holds them. -/
def featureModule : String := "__future__"

/-- The fault of a name that changes the language. -/
def featureFault? (names : List Imported) : Option SyntaxFault :=
  names.findSome? fun i =>
    if features.contains i.name then none
    else if i.name = "braces" then some (.form "not a chance")
    else some (.form ("future feature " ++ i.name ++ " is not defined"))

/-- A handler for all exceptions. -/
def catchesAll : Statement → Bool
  | .handler none _ _ => true
  | _ => false

/-- The fault of what belongs into an asynchronous function. -/
def asyncFault? (s : Surroundings) (asynchronous : Bool) (what : String) : Option SyntaxFault :=
  if asynchronous && s.function ≠ some true then some (.outside what "async function") else none

/-- What is said about a change of the language that comes too late. -/
def lateFeature : SyntaxFault :=
  .form "from __future__ imports must occur at the beginning of the file"

mutual

/-- The first fault of a statement. -/
def statementFault? (s : Surroundings) : Statement → Option SyntaxFault
  | .evaluate e | .emit e | .emitNames e => exprFault? s none e
  | .bind targets e =>
    firstOf [targets.findSome? (targetFault? s), exprFault? s none e]
  | .update target _ e => (targetFault? s target).or (exprFault? s none e)
  | .annotate target type e =>
    firstOf [targetFault? s target, exprFault? s none type, optionalFault? s e]
  | .delete targets => targets.findSome? (targetFault? s)
  | .raising e => optionalFault? s e
  | .returning e =>
    if s.function.isNone then some (.outside "return" "function") else optionalFault? s e
  | .require c text => (exprFault? s none c).or (optionalFault? s text)
  | .importFrom level module names =>
    if level = 0 && module = featureModule then
      if s.function.isSome || s.inClass then some lateFeature else featureFault? names
    else if names.isEmpty && (s.function.isSome || s.inClass) then
      some (.form "import * only allowed at module level")
    else none
  | .leave => if s.loop then none else some (.outside "break" "loop")
  | .proceed => if s.loop then none else some (.form "'continue' not properly in loop")
  | .branch c body other =>
    firstOf [exprFault? s none c, blockFault? s body, blockFault? s other]
  | .loop c body other =>
    firstOf [exprFault? s none c, blockFault? { s with loop := true } body, blockFault? s other]
  | .each asynchronous target source body other =>
    firstOf [asyncFault? s asynchronous "async for", targetFault? s target,
      itemFault? s none [source], blockFault? { s with loop := true } body, blockFault? s other]
  | .attempt body found other last =>
    firstOf [blockFault? s body,
      if found.dropLast.any catchesAll then some (.form "default 'except:' must be last")
      else none,
      blockFault? s found, blockFault? s other, blockFault? s last]
  | .handler type _ body => (optionalFault? s type).or (blockFault? s body)
  | .within asynchronous contexts body =>
    firstOf [asyncFault? s asynchronous "async with",
      contexts.findSome? fun c => (exprFault? s none c.1).or (c.2.bind (targetFault? s)),
      blockFault? s body]
  | .define head body =>
    let inner : Surroundings :=
      ⟨some head.asynchronous, false, false, Statement.localNames head.signature body ++ s.outer⟩
    let own : Surroundings := { inner with outer := s.outer }
    firstOf [signatureFault? head.signature, itemFault? s none head.decorators,
      itemFault? s none head.defaults, itemFault? s none head.types,
      nameFault? own head.signature.names [] (Statement.nameUsesIn body), blockFault? inner body]
  | .defineClass _ bases decorators body =>
    let inner : Surroundings := ⟨none, true, false, s.outer⟩
    firstOf [
      (duplicate? (bases.filterMap keywordName?)).map fun n =>
        .form ("keyword argument repeated: " ++ n),
      itemFault? s none decorators, itemFault? s none bases,
      nameFault? inner [] [] (Statement.nameUsesIn body), blockFault? inner body]
  | .importModule _ | .declare _ _ | .idle | .defineAs _ _ | .emitGlobals | .globalKey _
  | .log _ _ | .writeFile _ _ | .breakTraceback => none

/-- The first fault of statements in a row. -/
def blockFault? (s : Surroundings) : List Statement → Option SyntaxFault
  | [] => none
  | statement :: rest => (statementFault? s statement).or (blockFault? s rest)

end

/-! ## Programs -/

/-- The statement changes the language. -/
def changesLanguage : Statement → Bool
  | .importFrom level module _ => level = 0 && module = featureModule
  | _ => false

/-- The program without the statements that have to be at its start. -/
def behindFeatures (program : List Statement) : List Statement :=
  let behindSummary := if (Statement.summary? program).isSome then program.tail else program
  behindSummary.dropWhile changesLanguage

/-- The first fault of a program. -/
def programFault? (program : List Statement) : Option SyntaxFault :=
  firstOf [
    if (behindFeatures program).any changesLanguage then some lateFeature else none,
    nameFault? topLevel [] [] (Statement.nameUsesIn program),
    blockFault? topLevel program]

end EmbeddedPython.Check
