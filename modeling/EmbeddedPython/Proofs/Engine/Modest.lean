import EmbeddedPython.Proofs.Engine.Kinds
import EmbeddedPython.Scope

/-!
# Modest programs

A modest program imports nothing, does not ask for the names that are bound, and
of the globals with names that the interpreter keeps for itself it uses none.  A
quiet one does not emit, log or write anything either.

* `Statement.areModest` and `Expr.isModest` say this by the form of a program.
  They are told which names belong to a call, since these may be any.
* `Value.isModest` says of a value that no module is in it, and that the functions
  in it were made by a modest program in one namespace.

So what the operations make of modest values is modest (`Value.isKind_isModest`).
-/

namespace EmbeddedPython

/-- A name whose value does not depend on what the interpreter keeps to itself.
The types that a program gives to names are its own. -/
def Scope.isOrdinary (name : String) : Bool := !isReserved name || name == Run.typesName

/-! ## Values -/

/-- A function that behaves in this way uses ordinary names only. -/
def Behaviour.isModest (quiet : Bool) : Behaviour Value → Bool
  | arguments | argumentList | count | typeNames | nothing | argument _ | pair | code _ => true
  | homeName => false
  | constant v => v.isInert
  | emit _ => !quiet
  | raising name _ | global name | call name | increment name | rebind name =>
    Scope.isOrdinary name

namespace Value

mutual

/-- No module is in the value, and all functions in it belong to one namespace. -/
def isModest (home : Home) (quiet : Bool) : Value → Bool
  | list items | tuple items => areModest home quiet items
  | derived _ base => base.isModest home quiet
  | function _ behaviour h => h == home && behaviour.isModest quiet
  | module _ => false
  | _ => true

/-- The same for values in a row. -/
def areModest (home : Home) (quiet : Bool) : List Value → Bool
  | [] => true
  | v :: rest => v.isModest home quiet && areModest home quiet rest

end

end Value

/-! ## Programs -/

/-- A name that belongs to the call, or an ordinary one. -/
def Expr.mayUse (own : Option (List String)) (name : String) : Bool :=
  (own.map fun names => names.contains name).getD false || Scope.isOrdinary name

namespace Expr

mutual

/-- The expression uses names that belong to the call, or ordinary ones. -/
def isModest (own : Option (List String)) : Expr → Bool
  | constant c => c.value.isInert
  | name n => mayUse own n
  | display _ items | slice items | template items => areModest own items
  | starred e | spread e | member e _ | keyword _ e | unary _ e | awaiting e => e.isModest own
  | entry a b | subscript a b | binary _ a b | both a b | either a b =>
    a.isModest own && b.isModest own
  | call f args => f.isModest own && areModest own args
  | compare a _ others => a.isModest own && areModest own others
  | conditional c a b => c.isModest own && a.isModest own && b.isModest own
  | binding n e => mayUse own n && e.isModest own
  | function signature defaults body =>
    areModest own defaults && body.isModest (some signature.names)
  | comprehension _ _ parts => startsModest own parts
  | formatted e _ (some f) => e.isModest own && f.isModest own
  | formatted e _ none => e.isModest own
  | yielding _ => true

/-- The same for expressions in a row. -/
def areModest (own : Option (List String)) : List Expr → Bool
  | [] => true
  | e :: rest => e.isModest own && areModest own rest

/-- The same for what a rule starts from. -/
def startsModest (own : Option (List String)) : List Expr → Bool
  | _ :: source :: _ => source.isModest own
  | _ => true

end

end Expr

namespace Statement

/-- A key under which a modest program may store a global: the text of an ordinary
name. -/
def isOrdinaryKey : Value → Bool
  | .str name => Scope.isOrdinary name
  | _ => false

mutual

/-- The statement uses names that belong to the call, or ordinary ones, and
neither imports anything nor asks for the names that are bound. -/
def isModest (quiet : Bool) (own : Option (List String)) : Statement → Bool
  | evaluate e | emitNames e => e.isModest own
  | bind targets e => Expr.areModest own targets && e.isModest own
  | update target _ e => target.isModest own && e.isModest own
  | annotate target type e =>
    target.isModest own && (own.isSome || type.isModest own) && e.all (Expr.isModest own)
  | delete targets => Expr.areModest own targets
  | raising e | returning e => e.all (Expr.isModest own)
  | require c text => c.isModest own && text.all (Expr.isModest own)
  | importModule _ | importFrom _ _ _ | emitGlobals => false
  | declare _ _ | idle | leave | proceed | breakTraceback => true
  | branch c body other | loop c body other =>
    c.isModest own && areModest quiet own body && areModest quiet own other
  | each _ target source body other =>
    target.isModest own && source.isModest own && areModest quiet own body
      && areModest quiet own other
  | attempt body handlers other last =>
    areModest quiet own body && areModest quiet own handlers && areModest quiet own other
      && areModest quiet own last
  | handler type name body =>
    type.all (Expr.isModest own) && name.all (Expr.mayUse own) && areModest quiet own body
  | within _ contexts _ => contexts.all fun c => c.1.isModest own
  | define head body =>
    Expr.areModest own head.decorators && Expr.areModest own head.defaults
      && Expr.areModest own head.types && Expr.mayUse own head.name
      && areModest quiet (some (localNames head.signature body)) body
  | defineClass name bases decorators body =>
    Expr.areModest own bases && Expr.areModest own decorators && Expr.mayUse own name
      && areModest quiet (some ((nameUsesIn body).filterMap NameUse.bound?)) body
  | defineAs name routine => Expr.mayUse own name && routine.behaviour.isModest quiet
  | emit e => !quiet && e.isModest own
  | globalKey v => isOrdinaryKey v
  | log _ _ | writeFile _ _ => !quiet

/-- The same for statements in a row. -/
def areModest (quiet : Bool) (own : Option (List String)) : List Statement → Bool
  | [] => true
  | s :: rest => s.isModest quiet own && areModest quiet own rest

end

end Statement

/-- The statements of a code are modest, and so are the default values. -/
def Code.isModest (home : Home) (quiet : Bool) (code : Code) : Bool :=
  (code.defaults.all fun d => d.2.isModest home quiet)
    && Statement.areModest quiet (some code.locals) code.body

/-! ## Modest values -/

namespace Value

variable {home : Home} {quiet : Bool}

theorem areModest_iff {vs : List Value} :
    areModest home quiet vs ↔ ∀ v ∈ vs, v.isModest home quiet := by
  induction vs with
  | nil => simp [areModest]
  | cons v rest ih => simp [areModest, ih]

mutual

/-- A value without functions and modules is modest wherever it is. -/
theorem isModest_of_isInert {v : Value} (h : v.isInert) : v.isModest home quiet := by
  cases v with
  | list items | tuple items =>
    rw [isInert] at h
    rw [isModest]
    exact areModest_of_areInert h
  | derived name base =>
    rw [isInert] at h
    rw [isModest]
    exact isModest_of_isInert h
  | function name behaviour home => cases h
  | module home => cases h
  | _ => rfl

theorem areModest_of_areInert {vs : List Value} (h : areInert vs) : areModest home quiet vs := by
  cases vs with
  | nil => rfl
  | cons v rest =>
    rw [areInert, Bool.and_eq_true] at h
    rw [areModest, Bool.and_eq_true]
    exact ⟨isModest_of_isInert h.1, areModest_of_areInert h.2⟩

end

/-- Whether a value is modest depends on the functions and modules in it only. -/
theorem isKind_isModest : IsKind fun v => v.isModest home quiet where
  inert := isModest_of_isInert
  list := areModest_iff
  tuple := areModest_iff
  derived := Iff.rfl

end Value

end EmbeddedPython
