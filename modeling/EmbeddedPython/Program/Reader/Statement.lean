import EmbeddedPython.Program.Reader.Expression
import EmbeddedPython.Program.Statement

/-!
# Reading statements

Simple statements stand on a line, with semicolons between them; compound ones
hold blocks.  A block is a row of simple statements on the line of its head, or
lines that are indented more than the head.

As for expressions, all readers are recursive in a number of steps.
-/

namespace EmbeddedPython.Reading

/-! ## Simple statements -/

/-- The operator of a sign that changes a target in place. -/
def updateOperator? (s : String) : Option BinaryOperator :=
  match s.toList.reverse with
  | '=' :: rest => BinaryOperator.ofSign? (String.ofList rest.reverse)
  | _ => none

/-- The fault of what a function gives back while it goes on, as a target. -/
def yieldTarget : SyntaxFault :=
  .form "assignment to yield expression not possible"

/-- The value on the right of an assignment. -/
def assignedValue (steps : Nat) : Reading Expr := do
  if ← atWord "yield" then yielding steps else starExpressions steps

/-- An item of a tuple on the left of a sign that an assignment in place of a
comparison is told of. -/
def lastItem : Expr → Expr
  | .display .tuple items => items.getLast?.getD (.display .tuple items)
  | e => e

/-- The fault of a target in a chain, the first of which may be meant as a
comparison. -/
def checkTarget (steps : Nat) (first : Bool) (e : Expr) : Reading Unit := do
  match e with
  | .yielding _ => if !first then fail yieldTarget
  | _ => pure ()
  match targetFault? false e with
  | none => return
  | some f =>
    if first then
      let item := lastItem e
      match StateT.run (operation steps 1) ((← get).drop 1), equalityFault? item with
      | .ok (_, ⟨.sign s, _⟩ :: _), some g =>
        if s = "=" || s = ":=" then fail f
        else if bindable item then fail f else fail g
      | .ok _, some g => if bindable item then fail f else fail g
      | _, _ => fail f
    else fail f

/-- An assignment behind some of its targets. -/
def assignmentFrom (steps : Nat) (targets : List Expr) (e : Expr) : Reading Statement := do
  match steps with
  | 0 => refuse
  | steps + 1 =>
    if ← atSign "=" then
      checkTarget steps targets.isEmpty e
      advance
      if ← atWord "yield" then
        let v ← yielding steps
        if ← atSign "=" then fail yieldTarget
        return .bind (targets ++ [e]) v
      else
        let v ← starExpressions steps
        assignmentFrom steps (targets ++ [e]) v
    else return .bind targets e

/-- An assignment with a type. -/
def annotationOf (steps : Nat) (e : Expr) : Reading Statement := do
  let rest ← get
  advance
  let type ← expression steps
  match e with
  | .display .tuple _ => fail (.form "only single target (not tuple) can be annotated")
  | .display .list _ => fail (.form "only single target (not list) can be annotated")
  | _ =>
    if !bindable e then
      match e with
      | .starred _ =>
        set rest
        refuse
      | _ => fail (.form "illegal target for annotation")
    let v ← if ← takeSign "=" then some <$> assignedValue steps else pure none
    return .annotate e type v

/-- A statement that starts with an expression. -/
def expressionStatement (steps : Nat) : Reading Statement := do
  if ← atWord "yield" then
    let e ← yielding steps
    if ← atSign "=" then fail yieldTarget
    return .evaluate e
  let e ← starExpressions steps
  match ← peek with
  | .sign ":" => annotationOf steps e
  | .sign "=" => assignmentFrom steps [] e
  | .sign s =>
    match updateOperator? s with
    | some op =>
      advance
      let v ← assignedValue steps
      if !bindable e then fail (.updated e.kind)
      return .update e op v
    | none => return .evaluate e
  | t =>
    match e with
    | .name n =>
      if (n = "print" || n = "exec") && startsExpression t then
        let _ ← starExpressions steps
        fail (.form ("Missing parentheses in call to '" ++ n ++ "'. Did you mean " ++ n ++ "(...)?"))
    | _ => pure ()
    return .evaluate e

/-- Names with commas between them. -/
def names (steps : Nat) : Reading (List String) := do
  match steps with
  | 0 => refuse
  | steps + 1 =>
    let n ← expectName
    if ← takeSign "," then return n :: (← names steps)
    else return [n]

/-- The rest of a name with dots in it. -/
def dottedFrom (steps : Nat) (front : String) : Reading String := do
  match steps with
  | 0 => refuse
  | steps + 1 =>
    if ← takeSign "." then
      let n ← expectName
      dottedFrom steps (front ++ "." ++ n)
    else return front

/-- The other name that something is bound to. -/
def localName : Reading (Option String) := do
  if ← takeWord "as" then some <$> expectName else return none

/-- Modules with commas between them. -/
def modules (steps : Nat) : Reading (List Statement) := do
  match steps with
  | 0 => refuse
  | steps + 1 =>
    let module ← dottedFrom steps (← expectName)
    let found := Statement.importModule ⟨module, ← localName⟩
    if ← takeSign "," then return found :: (← modules steps)
    else return [found]

/-- How many dots there are in a row. -/
def dots (steps : Nat) : Reading Nat := do
  match steps with
  | 0 => refuse
  | steps + 1 =>
    if ← takeSign "." then return 1 + (← dots steps)
    else if ← takeSign "..." then return 3 + (← dots steps)
    else return 0

/-- Names that are imported from a module, with brackets around them or not. -/
def importedNames (steps : Nat) (inBrackets : Bool) : Reading (List Imported) := do
  match steps with
  | 0 => refuse
  | steps + 1 =>
    let n ← expectName
    let found : Imported := ⟨n, ← localName⟩
    if ← takeSign "," then
      if inBrackets then
        if ← takeSign ")" then return [found]
      else
        match ← peek with
        | .newline =>
          fail (.form "trailing comma not allowed without surrounding parentheses")
        | _ => pure ()
      return found :: (← importedNames steps inBrackets)
    else
      if inBrackets then expectSign ")"
      return [found]

/-- An import of names. -/
def importFrom (steps : Nat) : Reading Statement := do
  expectWord "from"
  let level ← dots steps
  let module ← match level, ← peek with
    | 0, _ => dottedFrom steps (← expectName)
    | _, .name _ => dottedFrom steps (← expectName)
    | _, _ => pure ""
  expectWord "import"
  if ← takeSign "*" then return .importFrom level module []
  else if ← takeSign "(" then return .importFrom level module (← importedNames steps true)
  else return .importFrom level module (← importedNames steps false)

/-- The fault of what cannot be deleted. -/
def deletionFault? (e : Expr) : Option SyntaxFault :=
  match e with
  | .name _ | .member _ _ | .subscript _ _ => none
  | .display .tuple items | .display .list items => faultIn items
  | e => some (.deleted e.kind)
where
  /-- The fault of the first such item. -/
  faultIn : List Expr → Option SyntaxFault
    | [] => none
    | item :: rest => (deletionFault? item).or (faultIn rest)

/-- The next token ends a simple statement. -/
def endsStatement : Reading Bool := do
  match ← peek with
  | .newline | .sign ";" => return true
  | _ => return false

/-- What is deleted. -/
def deletion (steps : Nat) : Reading Statement := do
  expectWord "del"
  let e ← starExpressions steps
  if !(← endsStatement) then refuse
  match deletionFault? e with
  | some f => fail f
  | none =>
    return .delete (match e with
      | .display .tuple items => items
      | e => [e])

/-- A simple statement. -/
def simpleStatement (steps : Nat) : Reading (List Statement) := do
  match ← peek with
  | .word "pass" =>
    advance
    return [.idle]
  | .word "break" =>
    advance
    return [.leave]
  | .word "continue" =>
    advance
    return [.proceed]
  | .word "return" =>
    advance
    if ← endsStatement then return [.returning none]
    else return [.returning (some (← starExpressions steps))]
  | .word "raise" =>
    advance
    if ← endsStatement then return [.raising none]
    else
      let e ← expression steps
      if ← takeWord "from" then
        let _ ← expression steps
      return [.raising (some e)]
  | .word "global" =>
    advance
    return [.declare false (← names steps)]
  | .word "nonlocal" =>
    advance
    return [.declare true (← names steps)]
  | .word "del" => return [← deletion steps]
  | .word "assert" =>
    advance
    let condition ← expression steps
    let text ← if ← takeSign "," then some <$> expression steps else pure none
    return [.require condition text]
  | .word "import" =>
    advance
    modules steps
  | .word "from" => return [← importFrom steps]
  | _ => return [← expressionStatement steps]

/-- The simple statements of a line. -/
def simpleStatements (steps : Nat) : Reading (List Statement) := do
  match steps with
  | 0 => refuse
  | steps + 1 =>
    let first ← simpleStatement steps
    match ← peek with
    | .newline =>
      advance
      return first
    | .sign ";" =>
      advance
      match ← peek with
      | .newline =>
        advance
        return first
      | _ => return first ++ (← simpleStatements steps)
    | _ => refuse

/-! ## Compound statements -/

/-- Takes the colon behind the head of a block.  `forced` says that nothing
else can follow the head. -/
def colon (forced : Bool) : Reading Unit := do
  if !(← takeSign ":") then
    match ← peek with
    | .newline => fail (.form "expected ':'")
    | .fault _ f => fail f
    | _ => if forced then fail (.form "expected ':'") else refuse

/-- A condition and the colon behind it. -/
def condition (steps : Nat) : Reading Expr := do
  let e ← namedExpression steps
  if ← atSign "=" then refuseBehind steps false e
  colon false
  return e

/-- The contexts of a block in brackets, up to the colon. -/
def bracketedContexts (steps : Nat) : Reading (List (Expr × Option Expr)) := do
  match steps with
  | 0 => refuse
  | steps + 1 =>
    if ← takeSign ")" then return []
    else
      let e ← expression steps
      let target ← if ← takeWord "as" then some <$> target steps else pure none
      if ← takeSign "," then return (e, target) :: (← bracketedContexts steps)
      else
        expectSign ")"
        return [(e, target)]

/-- The contexts of a block without brackets. -/
def plainContexts (steps : Nat) : Reading (List (Expr × Option Expr)) := do
  match steps with
  | 0 => refuse
  | steps + 1 =>
    let e ← expression steps
    let target ← if ← takeWord "as" then some <$> target steps else pure none
    if ← takeSign "," then return (e, target) :: (← plainContexts steps)
    else return [(e, target)]

/-- The contexts of a block. -/
def contexts (steps : Nat) : Reading (List (Expr × Option Expr)) := do
  let bracketed : Reading (List (Expr × Option Expr)) := do
    expectSign "("
    let found ← bracketedContexts steps
    if !(← atSign ":") || found.isEmpty then refuse
    return found
  let found ← try bracketed catch _ => plainContexts steps
  for (_, target) in found do
    if let some e := target then expectTarget e
  return found

/-- The type of the exceptions that a handler is for, and their name. -/
def handled (steps : Nat) : Reading (Option Expr × Option String) := do
  if (← atSign ":") then return (none, none)
  match ← peek with
  | .newline => fail (.form "expected ':'")
  | _ => pure ()
  let e ← expression steps
  if ← atSign "," then fail (.form "multiple exception types must be parenthesized")
  return (some e, ← localName)

mutual

/-- A block behind its colon. -/
def block (steps : Nat) (starter : String) (line : Nat) : Reading (List Statement) := do
  match steps with
  | 0 => refuse
  | steps + 1 =>
    match ← peek with
    | .newline =>
      advance
      match ← peek with
      | .indent =>
        advance
        blockLines steps
      | .fault _ f => fail f
      | _ => fail (.missingBlock starter line)
    | _ => simpleStatements steps

/-- The statements of a block up to its end. -/
def blockLines (steps : Nat) : Reading (List Statement) := do
  match steps with
  | 0 => refuse
  | steps + 1 =>
    let first ← statement steps
    match ← peek with
    | .dedent =>
      advance
      return first
    | .ending => return first
    | _ => return first ++ (← blockLines steps)

/-- The block behind a word, if there is one. -/
def blockBehind (steps : Nat) (word : String) : Reading (Option (List Statement)) := do
  match steps with
  | 0 => refuse
  | steps + 1 =>
    let line ← line
    if ← takeWord word then
      colon true
      return some (← block steps ("'" ++ word ++ "' statement") line)
    else return none

/-- What is done if no condition holds. -/
def otherwise (steps : Nat) : Reading (List Statement) := do
  match steps with
  | 0 => refuse
  | steps + 1 =>
    let line ← line
    if ← takeWord "elif" then
      let e ← condition steps
      let body ← block steps "'elif' statement" line
      return [.branch e body (← otherwise steps)]
    else return (← blockBehind steps "else").getD []

/-- The handlers behind a block. -/
def handlers (steps : Nat) : Reading (List Statement) := do
  match steps with
  | 0 => refuse
  | steps + 1 =>
    let line ← line
    if ← takeWord "except" then
      let _ ← takeSign "*"
      let (type, name) ← handled steps
      colon false
      let body ← block steps "'except' statement" line
      return .handler type name body :: (← handlers steps)
    else return []

/-- A function behind the word that starts it. -/
def function (steps : Nat) (asynchronous : Bool) (decorators : List Expr) (line : Nat) :
    Reading (List Statement) := do
  match steps with
  | 0 => refuse
  | steps + 1 =>
    let name ← expectName
    if !(← takeSign "(") then fail (.form "expected '('")
    let found ← parameters steps true ")"
    expectSign ")"
    let result ← if ← takeSign "->" then pure [← expression steps] else pure []
    colon true
    let body ← block steps "function definition" line
    return [.define ⟨name, asynchronous, found.signature, found.defaults, found.types ++ result,
      decorators⟩ body]

/-- A loop over items behind the word that starts it. -/
def eachLoop (steps : Nat) (asynchronous : Bool) (line : Nat) : Reading (List Statement) := do
  match steps with
  | 0 => refuse
  | steps + 1 =>
    let e ← targets steps
    if ← atWord "in" then expectTarget e
    expectWord "in"
    let source ← starExpressions steps
    colon false
    let body ← block steps "'for' statement" line
    return [.each asynchronous e source body ((← blockBehind steps "else").getD [])]

/-- A block in contexts behind the word that starts it. -/
def withinBlock (steps : Nat) (asynchronous : Bool) (line : Nat) : Reading (List Statement) := do
  match steps with
  | 0 => refuse
  | steps + 1 =>
    let found ← contexts steps
    colon false
    let body ← block steps "'with' statement" line
    return [.within asynchronous found body]

/-- A class behind the word that starts it. -/
def classBlock (steps : Nat) (decorators : List Expr) (line : Nat) : Reading (List Statement) := do
  match steps with
  | 0 => refuse
  | steps + 1 =>
    let name ← expectName
    let bases ← if ← takeSign "(" then arguments steps true else pure []
    match argumentFault? 0 bases with
    | some f => fail f
    | none =>
      colon false
      let body ← block steps "class definition" line
      return [.defineClass name bases decorators body]

/-- Decorators and what they are of. -/
def decorated (steps : Nat) (decorators : List Expr) : Reading (List Statement) := do
  match steps with
  | 0 => refuse
  | steps + 1 =>
    let line ← line
    if ← takeSign "@" then
      let e ← namedExpression steps
      match ← peek with
      | .newline =>
        advance
        decorated steps (decorators ++ [e])
      | _ => refuse
    else if ← takeWord "def" then function steps false decorators line
    else if ← takeWord "class" then classBlock steps decorators line
    else if ← takeWord "async" then
      expectWord "def"
      function steps true decorators line
    else refuse

/-- A block with handlers behind the word that starts it. -/
def attempt (steps : Nat) (line : Nat) : Reading (List Statement) := do
  match steps with
  | 0 => refuse
  | steps + 1 =>
    colon true
    let body ← block steps "'try' statement" line
    let found ← handlers steps
    let other ← if found.isEmpty then pure [] else
      pure ((← blockBehind steps "else").getD [])
    let last ← blockBehind steps "finally"
    if found.isEmpty && last.isNone then
      match ← peek with
      | .fault _ f => fail f
      | _ => fail (.form "expected 'except' or 'finally' block")
    return [.attempt body found other (last.getD [])]

/-- A statement, or the simple statements of a line. -/
def statement (steps : Nat) : Reading (List Statement) := do
  match steps with
  | 0 => refuse
  | steps + 1 =>
    let line ← line
    match ← peek with
    | .word "if" =>
      advance
      let e ← condition steps
      let body ← block steps "'if' statement" line
      return [.branch e body (← otherwise steps)]
    | .word "while" =>
      advance
      let e ← condition steps
      let body ← block steps "'while' statement" line
      return [.loop e body ((← blockBehind steps "else").getD [])]
    | .word "for" =>
      advance
      eachLoop steps false line
    | .word "with" =>
      advance
      withinBlock steps false line
    | .word "try" =>
      advance
      attempt steps line
    | .word "def" | .word "class" | .sign "@" => decorated steps []
    | .word "async" =>
      match ← peekSecond with
      | .word "for" =>
        advance
        advance
        eachLoop steps true line
      | .word "with" =>
        advance
        advance
        withinBlock steps true line
      | .word "def" => decorated steps []
      | _ =>
        advance
        refuse
    | _ => simpleStatements steps

end

/-- The statements up to the end of a source. -/
def program (steps : Nat) : Reading (List Statement) := do
  match steps with
  | 0 => refuse
  | steps + 1 =>
    match ← peek with
    | .ending => return []
    | _ =>
      let first ← statement steps
      return first ++ (← program steps)

/-- The statements of a source, as far as their form goes. -/
def ofSource (octets : Octets) : Except SyntaxFault (List Statement) :=
  let lexemes := Token.scan octets
  match run program lexemes with
  | .ok (found, _) => .ok found
  | .error r => .error (behind lexemes r)

end EmbeddedPython.Reading
