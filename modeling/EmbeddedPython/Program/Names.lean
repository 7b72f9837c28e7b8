import EmbeddedPython.Program.Statement

/-!
# The names in programs

Which names a program uses and binds, in order.  A name that is bound in a
function without being declared belongs to a call of it, so these are the names
that `Code.locals` holds.

`Statement.annotatesIn` and `Statement.summary?` say whether a program gives
types to names and what it says about itself: both are kept under names of their
own while it runs.
-/

namespace EmbeddedPython

/-- What a program does with a name. -/
inductive NameUse where
  | used (name : String)
  | bound (name : String)
  | imported (name : String)
  /-- A name that has a type. -/
  | annotated (name : String)
  | declared (outer : Bool) (name : String)
deriving Repr, DecidableEq

namespace NameUse

/-- The name that is bound. -/
def bound? : NameUse → Option String
  | bound n | imported n | annotated n => some n
  | _ => none

/-- The name that is declared. -/
def declared? : NameUse → Option String
  | declared _ n => some n
  | _ => none

end NameUse

namespace Expr

mutual

/-- What an expression does with names.  Functions and rules have names of their
own, so only what they start from counts. -/
def nameUses : Expr → List NameUse
  | constant _ => []
  | name n => [.used n]
  | display _ items => nameUsesIn items
  | entry k v => k.nameUses ++ v.nameUses
  | starred e | spread e | member e _ | keyword _ e | unary _ e | awaiting e => e.nameUses
  | subscript e i => e.nameUses ++ i.nameUses
  | slice bounds => nameUsesIn bounds
  | call f args => f.nameUses ++ nameUsesIn args
  | binary _ a b | both a b | either a b => a.nameUses ++ b.nameUses
  | compare a _ others => a.nameUses ++ nameUsesIn others
  | conditional c a b => c.nameUses ++ a.nameUses ++ b.nameUses
  | binding n e => e.nameUses ++ [.bound n]
  | function _ defaults _ => nameUsesIn defaults
  | comprehension _ _ parts => nameUsesInRule parts
  | template parts => nameUsesIn parts
  | formatted e _ (some f) => e.nameUses ++ f.nameUses
  | formatted e _ none => e.nameUses
  | yielding (some e) => e.nameUses
  | yielding none => []

/-- The same for expressions in a row. -/
def nameUsesIn : List Expr → List NameUse
  | [] => []
  | e :: rest => e.nameUses ++ nameUsesIn rest

/-- The same for the source of the first rule. -/
def nameUsesInRule : List Expr → List NameUse
  | _ :: source :: _ => source.nameUses
  | _ => []

end

mutual

/-- What binding an expression does with names. -/
def targetUses : Expr → List NameUse
  | name n => [.bound n]
  | display _ items => targetUsesIn items
  | starred e => e.targetUses
  | member e _ => e.nameUses
  | subscript e i => e.nameUses ++ i.nameUses
  | _ => []

/-- The same for targets in a row. -/
def targetUsesIn : List Expr → List NameUse
  | [] => []
  | e :: rest => e.targetUses ++ targetUsesIn rest

end

end Expr

namespace Imported

/-- The name that the import of a module binds. -/
def moduleName (i : Imported) : String :=
  i.localName.getD (String.ofList (i.name.toList.takeWhile (· != '.')))

/-- The name that the import from a module binds. -/
def boundName (i : Imported) : String :=
  i.localName.getD i.name

end Imported

namespace Statement

/-- What an expression that may be missing does with names. -/
def nameUsesOf (e : Option Expr) : List NameUse :=
  (e.map Expr.nameUses).getD []

mutual

/-- What a statement does with names. -/
def nameUses : Statement → List NameUse
  | evaluate e | emit e | emitNames e => e.nameUses
  | bind targets e => e.nameUses ++ Expr.targetUsesIn targets
  | update target _ e => target.nameUses ++ e.nameUses ++ target.targetUses
  | annotate (.name n) type e => nameUsesOf e ++ [.annotated n] ++ type.nameUses
  | annotate target type e => nameUsesOf e ++ target.targetUses ++ type.nameUses
  | delete targets => Expr.targetUsesIn targets
  | raising e | returning e => nameUsesOf e
  | require c text => c.nameUses ++ nameUsesOf text
  | importModule module => [.imported module.moduleName]
  | importFrom _ _ names => names.map fun i => .imported i.boundName
  | declare outer names => names.map (.declared outer)
  | branch c body other | loop c body other =>
    c.nameUses ++ nameUsesIn body ++ nameUsesIn other
  | each _ target source body other =>
    source.nameUses ++ target.targetUses ++ nameUsesIn body ++ nameUsesIn other
  | attempt body found other last =>
    nameUsesIn body ++ nameUsesIn found ++ nameUsesIn other ++ nameUsesIn last
  | handler type name body =>
    nameUsesOf type ++ name.toList.map .bound ++ nameUsesIn body
  | within _ contexts body =>
    contexts.flatMap (fun c => c.1.nameUses ++ (c.2.map Expr.targetUses).getD [])
      ++ nameUsesIn body
  | define head _ =>
    Expr.nameUsesIn (head.decorators ++ head.defaults ++ head.types) ++ [.bound head.name]
  | defineClass name bases decorators _ =>
    Expr.nameUsesIn decorators ++ Expr.nameUsesIn bases ++ [.bound name]
  | defineAs name _ => [.bound name]
  | idle | leave | proceed | emitGlobals | globalKey _ | log _ _ | writeFile _ _
  | breakTraceback => []

/-- The same for statements in a row. -/
def nameUsesIn : List Statement → List NameUse
  | [] => []
  | s :: rest => s.nameUses ++ nameUsesIn rest

end

mutual

/-- The statement gives a type to a name or another target, outside of functions
and classes. -/
def annotates : Statement → Bool
  | annotate _ _ _ => true
  | branch _ body other | loop _ body other | each _ _ _ body other =>
    annotatesIn body || annotatesIn other
  | attempt body found other last =>
    annotatesIn body || annotatesIn found || annotatesIn other || annotatesIn last
  | handler _ _ body | within _ _ body => annotatesIn body
  | _ => false

/-- The same for any of some statements. -/
def annotatesIn : List Statement → Bool
  | [] => false
  | s :: rest => s.annotates || annotatesIn rest

end

/-- What a program says about itself at its start. -/
def summary? : List Statement → Option Constant
  | evaluate (.constant c) :: _ => if c.value.typeName = "str" then some c else none
  | _ => none

/-- The names that belong to a call of a function: its parameters and those
that it binds. -/
def localNames (signature : Signature) (body : List Statement) : List String :=
  let found := nameUsesIn body
  let declared := found.filterMap NameUse.declared?
  (signature.names ++ found.filterMap NameUse.bound?).filter fun n => !declared.contains n

end Statement

end EmbeddedPython
