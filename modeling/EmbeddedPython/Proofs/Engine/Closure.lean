import EmbeddedPython.Proofs.Engine.Horizon

/-!
# What all work of the interpreter has in common

`Run.IsClosedOn H P` says that single steps of the interpreter have a property `P`,
and that every way to put work together keeps it.  Of work that has the property it is
said as well what holds of its result; the values are those of a horizon `H`, and only
homes that are seen in it are looked at.  Then every program has the property, whatever
it calls and imports: `IsClosedOn.reach` and `IsClosedOn.runProgram`.

Two of the ways come with what belongs around them.  A namespace for a call is
there for as long as the call lasts (`calling`), and the program of a module is
run only if no module of that name is there (`loading`).

For properties that do not depend on values there is `Run.IsClosed`.
-/

namespace EmbeddedPython

namespace Run

/-- Single steps of the interpreter have a property, and every way to put work
together keeps it, as long as nothing is imported. -/
structure IsComposed (H : Horizon) (P : ∀ {α : Type}, H.Post α → Run α → Prop) : Prop where
  value {α : Type} {Q : H.Post α} {a : α} (h : Q.Holds a) : P Q (pure a)
  raised {α : Type} {Q : H.Post α} (e : Raised) : P Q (throw e : Run α)
  bind {α β : Type} {Q : H.Post α} {R : H.Post β} {r : Run α} {k : α → Run β} (first : P Q r)
    (second : ∀ a, Q.Holds a → P R (k a)) : P R (r >>= k)
  caught {α : Type} {Q : H.Post α} {r : Run α} (h : P Q r) : P (.gives Q) (outcome r)
  /-- Work that goes on as the engine says, with no regard to what is not seen. -/
  looks {β : Type} {R : H.Post β} {k : Engine → Run β}
    (blind : ∀ e e' : Engine, e.LooksLike H e' → k e = k e')
    (rest : ∀ e : Engine, e.Known H → P R (k e)) : P R (engine >>= k)
  updates {home : Home} (seen : H.Sees home) {f : Namespace → Namespace}
    (keeps : ∀ ns, ns.Known H → (f ns).Known H) : P .any (change (·.update home f))
  emits (v : Value) : P .any (change (·.emit v))
  logs (severity : Severity) (message : String) : P .any (log severity message)
  writes (path text : String) : P .any (writeFile path text)
  /-- Work with a namespace that is gone afterwards. -/
  calling {α β : Type} {Q : H.Post α} {R : H.Post β} {ns : Namespace} {body : Home → Run α}
    {k : Except Raised α → Run β} (known : ns.Known H)
    (inner : ∀ space, H.Sees space → P Q (body space)) (rest : ∀ x, Gives Q.Holds x → P R (k x)) :
    P R (do
      let space ← allocate ns
      let x ← outcome (body space)
      change (·.release space)
      k x)

/-- The same with imports. -/
structure IsClosedOn (H : Horizon) (P : ∀ {α : Type}, H.Post α → Run α → Prop) : Prop
    extends IsComposed H P where
  adds (name : String) {names : Namespace} (known : names.Known H) :
    P .home (addModule name names)
  /-- The import of a module unless there is one. -/
  loading {r : Reach} {name : String} {entries : List String}
    (program : ∀ home statements, H.KnowsHome home →
      P .any (executeProgram r home statements)) :
    P .home (do
      match (← engine).module? name with
      | some home => return home
      | none =>
        match ← search entries name with
        | some found => load r name found
        | none => throw (notFound name))

/-- The same where an import has the property because its steps have it. -/
structure IsStepwise (H : Horizon) (P : ∀ {α : Type}, H.Post α → Run α → Prop) : Prop
    extends IsComposed H P where
  /-- Work that starts with a new module. -/
  starts {α : Type} {Q : H.Post α} {ns : Namespace} {name : String} {k : Home → Run α}
    (known : ns.Known H) (rest : ∀ home, H.KnowsHome home → P Q (k home)) :
    P Q (do
      let home ← allocate ns
      change (·.startLoading name home)
      k home)
  finishes (home : Home) : P .any (change (·.finishLoading home))
  abandons (name : String) (home : Home) : P .any (change (·.abandonLoading name home))
  searches (entries : List String) (name : String) : P .any (search entries name)
  reads (found : Finder.Finding) : P .any (programOf found)

namespace IsStepwise

variable {H : Horizon} {P : ∀ {α : Type}, H.Post α → Run α → Prop} (hP : IsStepwise H P)

include hP

theorem load {r : Reach} {name : String} {found : Finder.Finding}
    (program : ∀ home statements, H.KnowsHome home →
      P .any (executeProgram r home statements)) : P .home (load r name found) := by
  refine hP.starts (.names found name) fun home known => hP.bind (Q := .any) ?_ fun _ _ =>
    hP.bind (hP.finishes home) fun _ _ => hP.value known
  rw [tryCatch_eq]
  refine hP.bind (hP.caught (hP.bind (hP.reads found) fun statements _ =>
    program home statements known)) fun x _ => ?_
  cases x with
  | ok _ => exact hP.value trivial
  | error e => exact hP.bind (hP.abandons name home) fun _ _ => hP.raised e

theorem closed : IsClosedOn H P where
  toIsComposed := hP.toIsComposed
  adds name _ known := hP.starts known fun home knownHome =>
    hP.bind (hP.finishes home) fun _ _ => hP.value knownHome
  loading program := by
    refine hP.looks (fun e e' same => ?_) fun e known => ?_
    · rw [same.module?]
    · split
      · next there => exact hP.value (known.module? there)
      · refine hP.bind (hP.searches _ _) fun found _ => ?_
        split
        · exact hP.load program
        · exact hP.raised _

end IsStepwise

end Run

/-- The calls and imports that may be started have a property. -/
structure Reach.Has (r : Reach) (H : Horizon) (P : ∀ {α : Type}, H.Post α → Run α → Prop) :
    Prop where
  call {f : Value} {args : List Value} {named : List (String × Value)} (callee : H.Knows f)
    (positional : ∀ v ∈ args, H.Knows v) (byName : ∀ d ∈ named, H.Knows d.2) :
    P .value (r.call f args named)
  importModule (name : String) : P .home (r.importModule name)

namespace Run.IsClosedOn

variable {α β : Type} {H : Horizon} {P : ∀ {α : Type}, H.Post α → Run α → Prop}
  (hP : IsClosedOn H P) {r : Reach} (hr : r.Has H P)

include hP

set_option linter.unusedSectionVars false

/-! ## Names -/

theorem ofExcept {Q : H.Post α} {x : Except Raised α} (h : Gives Q.Holds x) : P Q (ofExcept x) := by
  cases x with
  | ok a => exact hP.value (h a rfl)
  | error e => exact hP.raised e

theorem items {v : Value} (known : H.Knows v) : P .values (Run.ofExcept (Operation.items v)) :=
  hP.ofExcept (H.isKind.items known)

/-- A value that is looked up, or an exception. -/
theorem found {k : Engine → Option Value} {e : Raised}
    (blind : ∀ e e' : Engine, e.LooksLike H e' → k e = k e')
    (known : ∀ (e : Engine) v, e.Known H → k e = some v → H.Knows v) :
    P .value (do
      match k (← engine) with
      | some v => return v
      | none => throw e) := by
  refine hP.looks (fun e e' same => ?_) fun engine knownEngine => ?_
  · rw [blind e e' same]
  · split
    · next v there => exact hP.value (known engine v knownEngine there)
    · exact hP.raised _

theorem lookUp {home : Home} (seen : H.Sees home) (name : String) :
    P .value (lookUp home name) :=
  hP.found (fun _ _ same => same.resolve? seen name) fun _ _ known => known.resolve? seen

theorem readName {f : Frame} (hf : f.Known H) (name : String) : P .value (readName f name) := by
  unfold Run.readName
  split
  · have seen := hf.homeOf name
    exact hP.found (fun _ _ same => same.global? seen name) fun _ _ known => known.global? seen
  · exact hP.lookUp hf.sees name

theorem binds {home : Home} (seen : H.Sees home) (name : String) {v : Value} (known : H.Knows v) :
    P .any (change (·.bindName home name v)) :=
  hP.updates seen fun _ h => h.set (.name name) known

theorem unbinds {home : Home} (seen : H.Sees home) (name : String) :
    P .any (change (·.unbind home name)) :=
  hP.updates seen fun _ h => h.erase name

theorem bindName {f : Frame} (hf : f.Known H) (name : String) {v : Value} (known : H.Knows v) :
    P .any (bindName f name v) :=
  hP.binds (hf.homeOf name) name known

theorem deleteName {f : Frame} (hf : f.Known H) (name : String) :
    P .any (deleteName f name) := by
  have seen := hf.homeOf name
  have unbound := hP.unbinds seen name
  refine hP.looks (fun e e' same => ?_) fun e _ => ?_
  · rw [same.global? seen]
  · dsimp only
    split
    · exact hP.bind (Q := .any) (hP.raised _) fun _ _ => unbound
    · exact unbound

theorem makeFunction {f : Frame} (hf : f.Known H) (name : String) {code : Code}
    (known : code.Known H) : P .value (makeFunction f name code) := by
  have added : P .any (addCode f.home code) := by
    refine hP.looks (fun e e' same => ?_) fun e _ => ?_
    · rw [same.space? _ hf.sees]
    · exact hP.bind (hP.updates hf.sees fun _ h => h.addCode known) fun _ _ => hP.value trivial
  exact hP.bind added fun _ _ => hP.value (H.knows_function hf.home rfl)

theorem raiseValue (v : Value) {Q : H.Post α} : P Q (raiseValue v : Run α) := by
  unfold Run.raiseValue
  split
  · exact hP.raised _
  · split
    · exact hP.bind (hP.ofExcept (Q := .any) fun _ _ => trivial) fun _ _ => hP.raised _
    · exact hP.raised _
  · exact hP.raised _

theorem increase (inPlace : Bool) {home : Home} (seen : H.Sees home) (name : String) :
    P .value (increase inPlace home name) :=
  hP.bind (hP.lookUp seen name) fun _ known =>
    hP.bind (hP.ofExcept (H.isKind.binary inPlace .add known (H.isKind.inert rfl))) fun _ sum =>
      hP.bind (hP.binds seen name sum) fun _ _ => hP.value sum

theorem namesOf {v : Value} (known : H.Knows v) : P .any (namesOf v) := by
  unfold Run.namesOf
  split
  · next home =>
    refine hP.looks (fun e e' same => ?_) fun _ _ => hP.value trivial
    unfold Engine.names
    rw [same.space? _ (H.sees_of_knows known)]
  · exact hP.raised _

theorem bindField {v : Value} (owner : H.Knows v) (field : String) {x : Value}
    (known : H.Knows x) : P .any (bindField v field x) := by
  unfold Run.bindField
  split
  · exact hP.binds (H.sees_of_knows owner) field known
  · exact hP.value trivial
  · exact hP.raised _

theorem bindItem (v : Value) : P .any (bindItem v) := by
  unfold Run.bindItem
  split <;> first | exact hP.value trivial | exact hP.raised _

theorem prepareTypes {f : Frame} (hf : f.Known H) : P .any (prepareTypes f) := by
  refine hP.looks (fun e e' same => ?_) fun e _ => ?_
  · rw [same.global? hf.sees]
  · split
    · exact hP.bindName hf _ (H.isKind.inert rfl)
    · exact hP.value trivial

theorem noteType {f : Frame} (hf : f.Known H) (target : Expr) :
    P .any (noteType f target) := by
  unfold Run.noteType
  split
  · exact hP.bind (hP.readName hf _) fun v _ => hP.bindItem v
  · exact hP.value trivial

theorem absoluteName {home : Home} (seen : H.Sees home) (level : Nat) (module : String) :
    P .any (absoluteName home level module) := by
  unfold Run.absoluteName
  split
  · exact hP.value trivial
  · refine hP.looks (fun e e' same => ?_) fun e _ => ?_
    · rw [same.global? seen]
    · dsimp only
      split
      all_goals
        split
        · refine hP.bind (Q := .any) (hP.raised _) fun _ _ => ?_
          split
          · exact hP.raised _
          · exact hP.value trivial
        · split
          · exact hP.raised _
          · exact hP.value trivial

theorem bindPublic {f : Frame} (hf : f.Known H) {home : Home} (seen : H.Sees home) :
    P .any (bindPublic f home) := by
  refine hP.looks (fun e e' same => ?_) fun e known => ?_
  · rw [same.space? _ seen]
  · have bound : ∀ entry ∈ ((e.space? home).map Namespace.entries).getD [], H.Knows entry.2 := by
      cases there : e.space? home with
      | none => exact fun _ none => nomatch none
      | some ns => exact (known.spaces home ns seen there).entries
    dsimp only
    generalize ((e.space? home).map Namespace.entries).getD [] = entries at bound
    refine hP.bind (Q := .any) ?_ fun _ _ => hP.value trivial
    induction entries with
    | nil => exact hP.value trivial
    | cons entry rest ih =>
      obtain ⟨first, others⟩ := List.forall_mem_cons.1 bound
      rw [List.forIn_cons]
      refine hP.bind (Q := .any) ?_ fun next _ => ?_
      · split
        · split
          · exact hP.bind (hP.bindName hf _ first) fun _ _ => hP.value trivial
          · exact hP.value trivial
        · exact hP.value trivial
      · cases next with
        | done _ => exact hP.value trivial
        | yield _ => exact ih others

/-! ## Expressions -/

/-! Rows of expressions.  The first one may be marked, which makes no difference to
what is done with the others. -/

section Rows

variable {f : Frame} {e : Expr} {rest : List Expr} (first : P .value (Run.evaluate r f e))

include first

theorem evaluateItems_cons
    (others : P .values (Run.evaluateItems r f rest)) :
    P .values (Run.evaluateItems r f (e :: rest)) := by
  unfold Run.evaluateItems
  split
  all_goals
    rename_i same
    cases same
  · refine hP.bind first fun _ hv => hP.bind (hP.items hv) fun vs hvs =>
      hP.bind others fun more hmore => hP.value fun x hx => ?_
    exact (List.mem_append.1 hx).elim (hvs x) (hmore x)
  · exact hP.bind first fun _ hv => hP.bind others fun _ hmore =>
      hP.value (List.forall_mem_cons.2 ⟨hv, hmore⟩)

theorem evaluateArguments_cons
    (others : P .arguments
      (Run.evaluateArguments r f rest)) :
    P .arguments
      (Run.evaluateArguments r f (e :: rest)) := by
  unfold Run.evaluateArguments
  split
  all_goals
    rename_i same
    cases same
  · refine hP.bind first fun _ hv => hP.bind (hP.items hv) fun vs hvs =>
      hP.bind others fun more hmore => hP.value ⟨fun x hx => ?_, hmore.2⟩
    exact (List.mem_append.1 hx).elim (hvs x) (hmore.1 x)
  · exact hP.bind first fun _ hv => hP.bind others fun _ hmore =>
      hP.value ⟨hmore.1, List.forall_mem_cons.2 ⟨hv, hmore.2⟩⟩
  · exact hP.bind first fun _ _ => others
  · exact hP.bind first fun _ hv => hP.bind others fun _ hmore =>
      hP.value ⟨List.forall_mem_cons.2 ⟨hv, hmore.1⟩, hmore.2⟩

theorem evaluateDefaults_cons
    (others : P .named (Run.evaluateDefaults r f rest)) :
    P .named (Run.evaluateDefaults r f (e :: rest)) := by
  unfold Run.evaluateDefaults
  split
  all_goals
    rename_i same
    cases same
  · exact hP.bind first fun _ hv => hP.bind others fun _ hmore =>
      hP.value (List.forall_mem_cons.2 ⟨hv, hmore⟩)
  · exact others

theorem compareAll_cons (a : Value) (comparisons : List Comparison)
    (others : ∀ b comparisons, P .value (Run.compareAll r f b comparisons rest)) :
    P .value (Run.compareAll r f a comparisons (e :: rest)) := by
  cases comparisons with
  | nil => exact hP.value (H.isKind.inert rfl)
  | cons c comparisons =>
    refine hP.bind first fun b _ => hP.bind (hP.ofExcept (Q := .any) fun _ _ => trivial)
      fun holds _ => ?_
    split
    · exact others b comparisons
    · exact hP.value (H.isKind.inert rfl)

end Rows

include hr

theorem attributeWith {v : Value} (known : H.Knows v) (field : String) :
    P .value (attributeWith r v field) := by
  unfold Run.attributeWith
  split
  · next home =>
    have seen := H.sees_of_knows known
    refine hP.looks (fun e e' same => ?_) fun e knownEngine => ?_
    · unfold missingOfModule
      rw [same.global? seen, same.global? seen, same.global? seen, same.loading]
    · split
      · next v there =>
        rcases Option.or_eq_some_iff.1 there with there | ⟨-, there⟩
        · exact hP.value (knownEngine.global? seen there)
        · exact hP.value (H.isKind.inert (isInert_moduleAttribute? there))
      · split
        · next f there =>
          refine hr.call (knownEngine.global? seen there) (fun v hv => ?_)
            fun _ none => nomatch none
          exact List.mem_singleton.1 hv ▸ H.isKind.inert rfl
        · exact hP.raised _
  · split
    · next found => exact hP.value (H.isKind.inert (isInert_ownAttribute? found))
    · exact hP.raised _

theorem behave {name : String} {home : Home} {behaviour : Behaviour Value} {args : List Value}
    (callee : H.Knows (.function name behaviour home)) (hargs : ∀ v ∈ args, H.Knows v) :
    P .value (behave r name home behaviour args) := by
  have seen := H.sees_of_knows (H.home_of_knows callee)
  cases behaviour with
  | arguments => exact hP.value (H.isKind.tuple.2 hargs)
  | argumentList => exact hP.value (H.isKind.list.2 hargs)
  | typeNames =>
    refine hP.value (H.isKind.list.2 fun x hx => ?_)
    obtain ⟨v, -, rfl⟩ := List.mem_map.1 hx
    exact H.isKind.inert rfl
  | count | nothing | code _ => exact hP.value (H.isKind.inert rfl)
  | constant _ => exact hP.value (H.constant_of_knows callee)
  | homeName | global _ => exact hP.lookUp seen _
  | argument index =>
    unfold Run.behave
    dsimp only
    split
    · next found => exact hP.value (hargs _ (Operation.mem_of_item? found))
    · exact hP.raised _
  | emit v => exact hP.bind (hP.emits v) fun _ _ => hP.value (H.isKind.inert rfl)
  | raising kind text =>
    refine hP.bind (hP.lookUp seen kind) fun type known => ?_
    cases text with
    | none => exact hP.raiseValue type
    | some text =>
      refine hP.bind (hr.call known (fun v hv => ?_) fun _ none => nomatch none) fun v _ =>
        hP.raiseValue v
      exact List.mem_singleton.1 hv ▸ H.isKind.inert rfl
  | call f =>
    exact hP.bind (hP.lookUp seen f) fun f known => hr.call known hargs fun _ none => nomatch none
  | increment n => exact hP.increase true seen n
  | rebind n => exact hP.increase false seen n
  | pair =>
    unfold Run.behave
    dsimp only
    split
    · exact hP.value (H.isKind.tuple.2 hargs)
    · exact hP.raised _

mutual

theorem evaluate {f : Frame} (hf : f.Known H) (e : Expr) : P .value (evaluate r f e) := by
  cases e with
  | constant c => exact hP.value (H.isKind.inert c.inert)
  | name n => exact hP.readName hf n
  | display kind items =>
    exact hP.bind (evaluateItems hf items) fun _ hvs => hP.ofExcept (H.isKind.collect kind hvs)
  | entry k v =>
    refine hP.bind (evaluate hf k) fun key _ => hP.bind (evaluate hf v) fun _ _ => ?_
    split
    · exact hP.raised _
    · exact hP.value (H.isKind.inert rfl)
  | starred e | spread e | keyword _ e | awaiting e => exact evaluate hf e
  | member e field => exact hP.bind (evaluate hf e) fun v hv => hP.attributeWith hr hv field
  | subscript e index =>
    refine hP.bind (evaluate hf e) fun v hv => hP.bind (evaluate hf index) fun i _ => ?_
    split
    · exact hP.value (H.isKind.inert rfl)
    · exact hP.ofExcept (H.isKind.subscript hv _)
  | slice bounds =>
    exact hP.bind (evaluateItems hf bounds) fun _ _ => hP.value (H.isKind.inert rfl)
  | call e args =>
    exact hP.bind (evaluate hf e) fun v hv => hP.bind (evaluateArguments hf args) fun _ ha =>
      hr.call hv ha.1 ha.2
  | unary op e =>
    exact hP.bind (evaluate hf e) fun v _ => hP.ofExcept (H.isKind.unary op v)
  | binary op a b =>
    exact hP.bind (evaluate hf a) fun _ hx => hP.bind (evaluate hf b) fun _ hy =>
      hP.ofExcept (H.isKind.binary false op hx hy)
  | compare a comparisons others =>
    exact hP.bind (evaluate hf a) fun v _ => compareAll hf v comparisons others
  | both a b =>
    refine hP.bind (evaluate hf a) fun v hv => ?_
    split
    · exact evaluate hf b
    · exact hP.value hv
  | either a b =>
    refine hP.bind (evaluate hf a) fun v hv => ?_
    split
    · exact hP.value hv
    · exact evaluate hf b
  | conditional c a b =>
    refine hP.bind (evaluate hf c) fun v _ => ?_
    split
    · exact evaluate hf a
    · exact evaluate hf b
  | binding n e =>
    exact hP.bind (evaluate hf e) fun v hv => hP.bind (hP.bindName hf n hv) fun _ _ =>
      hP.value hv
  | function signature defaults body =>
    exact hP.bind (evaluateDefaults hf defaults) fun _ given => hP.makeFunction hf _ given
  | comprehension kind item parts =>
    exact hP.bind (evaluateSource hf parts) fun _ _ => hP.value (H.isKind.inert rfl)
  | template parts =>
    exact hP.bind (evaluateItems hf parts) fun _ _ => hP.value (H.isKind.inert rfl)
  | formatted e conversion format =>
    cases format with
    | none => exact hP.bind (evaluate hf e) fun _ _ => hP.value (H.isKind.inert rfl)
    | some spec =>
      exact hP.bind (evaluate hf e) fun _ _ => hP.bind (evaluate hf spec) fun _ _ =>
        hP.value (H.isKind.inert rfl)
  | yielding e => exact hP.value (H.isKind.inert rfl)

theorem evaluateItems {f : Frame} (hf : f.Known H) (items : List Expr) :
    P .values (evaluateItems r f items) := by
  cases items with
  | nil => exact hP.value fun _ none => nomatch none
  | cons e rest => exact hP.evaluateItems_cons (evaluate hf e) (evaluateItems hf rest)

theorem evaluateArguments {f : Frame} (hf : f.Known H) (args : List Expr) :
    P .arguments (evaluateArguments r f args) := by
  cases args with
  | nil => exact hP.value ⟨fun _ none => (nomatch none), fun _ none => nomatch none⟩
  | cons e rest => exact hP.evaluateArguments_cons (evaluate hf e) (evaluateArguments hf rest)

theorem evaluateDefaults {f : Frame} (hf : f.Known H) (defaults : List Expr) :
    P .named (evaluateDefaults r f defaults) := by
  cases defaults with
  | nil => exact hP.value fun _ none => nomatch none
  | cons e rest => exact hP.evaluateDefaults_cons (evaluate hf e) (evaluateDefaults hf rest)

theorem compareAll {f : Frame} (hf : f.Known H) (a : Value) (comparisons : List Comparison)
    (others : List Expr) : P .value (compareAll r f a comparisons others) := by
  cases others with
  | nil => cases comparisons <;> exact hP.value (H.isKind.inert rfl)
  | cons e rest =>
    exact hP.compareAll_cons (evaluate hf e) a comparisons fun b comparisons =>
      compareAll hf b comparisons rest

theorem evaluateSource {f : Frame} (hf : f.Known H) (parts : List Expr) :
    P .any (evaluateSource r f parts) := by
  cases parts with
  | nil => exact hP.value trivial
  | cons item rest =>
    cases rest with
    | nil => exact hP.value trivial
    | cons source _ =>
      exact hP.bind (evaluate hf source) fun _ hv =>
        hP.bind (hP.items hv) fun _ _ => hP.value trivial

end

/-! ## Targets and imports -/

mutual

theorem bindTarget {f : Frame} (hf : f.Known H) (target : Expr) {v : Value} (hv : H.Knows v) :
    P .any (bindTarget r f target v) := by
  cases target with
  | name n => exact hP.bindName hf n hv
  | member e field =>
    exact hP.bind (hP.evaluate hr hf e) fun _ owner => hP.bindField owner field hv
  | subscript e i =>
    exact hP.bind (hP.evaluate hr hf e) fun owner _ => hP.bind (hP.evaluate hr hf i) fun _ _ =>
      hP.bindItem owner
  | display _ targets =>
    exact hP.bind (hP.ofExcept (Q := .values) (H.isKind.valuesFor targets hv)) fun _ hvs =>
      bindTargets hf targets hvs
  | starred e => exact bindTarget hf e hv
  | _ => exact hP.value trivial

theorem bindTargets {f : Frame} (hf : f.Known H) (targets : List Expr) {vs : List Value}
    (hvs : ∀ v ∈ vs, H.Knows v) : P .any (bindTargets r f targets vs) := by
  unfold Run.bindTargets
  split
  · obtain ⟨first, others⟩ := List.forall_mem_cons.1 hvs
    exact hP.bind (bindTarget hf _ first) fun _ _ => bindTargets hf _ others
  · exact hP.value trivial

end

theorem bindAll {f : Frame} (hf : f.Known H) {v : Value} (hv : H.Knows v) (targets : List Expr) :
    P .any (bindAll r f v targets) := by
  induction targets with
  | nil => exact hP.value trivial
  | cons e rest ih => exact hP.bind (hP.bindTarget hr hf e hv) fun _ _ => ih

mutual

theorem deleteTarget {f : Frame} (hf : f.Known H) (target : Expr) :
    P .any (deleteTarget r f target) := by
  cases target with
  | name n => exact hP.deleteName hf n
  | member e field =>
    refine hP.bind (hP.evaluate hr hf e) fun v known => ?_
    split
    · next home =>
      have seen := H.sees_of_knows known
      have unbound := hP.unbinds seen field
      refine hP.looks (fun e e' same => ?_) fun e _ => ?_
      · rw [same.global? seen]
      · dsimp only
        split
        · exact hP.bind (Q := .any) (hP.raised _) fun _ _ => unbound
        · exact unbound
    · exact hP.raised _
  | subscript e i =>
    exact hP.bind (hP.evaluate hr hf e) fun _ _ => hP.bind (hP.evaluate hr hf i) fun _ _ =>
      hP.value trivial
  | display _ targets => exact deleteTargets hf targets
  | _ => exact hP.value trivial

theorem deleteTargets {f : Frame} (hf : f.Known H) (targets : List Expr) :
    P .any (deleteTargets r f targets) := by
  unfold Run.deleteTargets
  split
  · exact hP.value trivial
  · exact hP.bind (deleteTarget hf _) fun _ _ => deleteTargets hf _

end

theorem importedValue {home : Home} (seen : H.Sees home) (module name : String) :
    P .value (importedValue r home module name) := by
  have refused : P .value (do throw (notImported (← engine) home module name)) := by
    refine hP.looks (fun e e' same => ?_) fun e _ => hP.raised _
    unfold notImported
    rw [same.global? seen, same.loading]
  refine hP.looks (fun e e' same => ?_) fun e known => ?_
  · rw [same.global? seen]
  · split
    · next there => exact hP.value (known.global? seen there)
    · refine hP.looks (fun e e' same => ?_) fun e _ => ?_
      · rw [same.global? seen]
      · split
        · refine hP.bind (hP.caught (hr.importModule _)) fun x given => ?_
          split
          · exact hP.value (given _ rfl)
          · split
            · exact refused
            · exact hP.raised _
        · split
          · exact hP.value (H.isKind.inert rfl)
          · exact refused

theorem bindImported {f : Frame} (hf : f.Known H) {home : Home} (seen : H.Sees home)
    (module : String) (names : List Imported) :
    P .any (bindImported r f home module names) := by
  induction names with
  | nil => exact hP.value trivial
  | cons i rest ih =>
    exact hP.bind (hP.importedValue hr seen module i.name) fun _ hv =>
      hP.bind (hP.bindName hf _ hv) fun _ _ => ih

theorem importAs {f : Frame} (hf : f.Known H) (i : Imported) :
    P .any (importAs r f i) := by
  refine hP.bind (hr.importModule i.name) fun home known => ?_
  split
  · exact hP.bindName hf _ known
  · exact hP.bind (hr.importModule _) fun _ top => hP.bindName hf _ top

/-! ## Loops and decorators -/

omit hr in
theorem rounds {round : Run (Option Flow)} (h : P .ended round)
    (left : Nat) : P .flow (rounds round left) := by
  induction left with
  | zero => exact hP.value trivial
  | succ left ih =>
    refine hP.bind h fun ended known => ?_
    split
    · exact hP.value (known _ rfl)
    · exact ih

omit hr in
theorem overValues {body : Value → Run Flow} {last : Run Flow}
    (h : ∀ v, H.Knows v → P .flow (body v)) (hlast : P .flow last)
    {vs : List Value} (hvs : ∀ v ∈ vs, H.Knows v) :
    P .flow (overValues body last vs) := by
  induction vs with
  | nil => exact hlast
  | cons v rest ih =>
    obtain ⟨first, others⟩ := List.forall_mem_cons.1 hvs
    refine hP.bind (h v first) fun flow known => ?_
    split
    · next ended => exact hP.value (known.afterRound _ ended)
    · exact ih others

theorem decorate {v : Value} (hv : H.Knows v) {decorators : List Value}
    (hds : ∀ d ∈ decorators, H.Knows d) : P .value (decorate r v decorators) := by
  induction decorators with
  | nil => exact hP.value hv
  | cons d rest ih =>
    obtain ⟨first, others⟩ := List.forall_mem_cons.1 hds
    refine hP.bind (ih others) fun inner known => hr.call first (fun x hx => ?_)
      fun _ none => nomatch none
    exact List.mem_singleton.1 hx ▸ known

/-! ## Statements that carry out no others -/

theorem annotate {f : Frame} (hf : f.Known H) (target type : Expr) (e : Option Expr) :
    P .flow (execute r f (.annotate target type e)) := by
  have noted : P .flow (do
      if f.locals.isNone then
        let _ ← Run.evaluate r f type
        Run.noteType f target
      return Flow.next) := by
    dsimp only
    split
    · exact hP.bind (hP.evaluate hr hf type) fun _ _ => hP.bind (hP.noteType hf target)
        fun _ _ => hP.value trivial
    · exact hP.value trivial
  cases e with
  | none => exact noted
  | some e =>
    exact hP.bind (hP.evaluate hr hf e) fun v hv => hP.bind (hP.bindTarget hr hf target hv)
      fun _ _ => noted

theorem raising {f : Frame} (hf : f.Known H) (e : Option Expr) :
    P .flow (execute r f (.raising e)) := by
  cases e with
  | none =>
    unfold Run.execute
    split <;> exact hP.raised _
  | some e => exact hP.bind (hP.evaluate hr hf e) fun v _ => hP.raiseValue v

theorem require {f : Frame} (hf : f.Known H) (c : Expr) (text : Option Expr) :
    P .flow (execute r f (.require c text)) := by
  refine hP.bind (hP.evaluate hr hf c) fun v _ => ?_
  split
  · exact hP.value trivial
  · cases text with
    | none => exact hP.raised _
    | some e => exact hP.bind (hP.evaluate hr hf e) fun _ _ => hP.raised _

theorem importFrom {f : Frame} (hf : f.Known H) (level : Nat) (module : String)
    (names : List Imported) :
    P .flow (execute r f (.importFrom level module names)) := by
  refine hP.bind (hP.absoluteName hf.sees level module) fun name _ =>
    hP.bind (hr.importModule name) fun home known => ?_
  have seen := H.sees_of_knows known
  dsimp only
  split
  · exact hP.bind (hP.bindPublic hf seen) fun _ _ => hP.value trivial
  · exact hP.bind (hP.bindImported hr hf seen name names) fun _ _ => hP.value trivial

/-- The body of a function is carried out when the function is called. -/
theorem define {f : Frame} (hf : f.Known H) (head : FunctionHead) (body : List Statement) :
    P .flow (execute r f (.define head body)) :=
  hP.bind (hP.evaluateItems hr hf head.decorators) fun _ hds =>
    hP.bind (hP.evaluateDefaults hr hf head.defaults) fun _ given =>
      hP.bind (hP.evaluateItems hr hf head.types) fun _ _ =>
        hP.bind (hP.makeFunction hf _ given) fun _ hv =>
          hP.bind (hP.decorate hr hv hds) fun _ hv => hP.bind (hP.bindName hf _ hv)
            fun _ _ => hP.value trivial

/-! ## Statements -/

mutual

theorem execute {f : Frame} (hf : f.Known H) (s : Statement) :
    P .flow (execute r f s) := by
  cases s with
  | evaluate e => exact hP.bind (hP.evaluate hr hf e) fun _ _ => hP.value trivial
  | bind targets e =>
    exact hP.bind (hP.evaluate hr hf e) fun v hv => hP.bind (hP.bindAll hr hf hv targets)
      fun _ _ => hP.value trivial
  | update target op e =>
    exact hP.bind (hP.evaluate hr hf target) fun _ hold => hP.bind (hP.evaluate hr hf e)
      fun _ hv => hP.bind (hP.ofExcept (Q := .value) (H.isKind.binary true op hold hv))
        fun _ hnew => hP.bind (hP.bindTarget hr hf target hnew) fun _ _ => hP.value trivial
  | annotate target type e => exact hP.annotate hr hf target type e
  | delete targets => exact hP.bind (hP.deleteTargets hr hf targets) fun _ _ => hP.value trivial
  | raising e => exact hP.raising hr hf e
  | require c text => exact hP.require hr hf c text
  | importModule i => exact hP.bind (hP.importAs hr hf i) fun _ _ => hP.value trivial
  | importFrom level module names => exact hP.importFrom hr hf level module names
  | declare _ _ | idle | leave | proceed | handler _ _ _ | breakTraceback => exact hP.value trivial
  | returning e =>
    cases e with
    | none => exact hP.value (H.isKind.inert rfl)
    | some e => exact hP.bind (hP.evaluate hr hf e) fun _ hv => hP.value hv
  | branch c body other =>
    refine hP.bind (hP.evaluate hr hf c) fun v _ => ?_
    split
    · exact executeAll hf body
    · exact executeAll hf other
  | loop c body other =>
    refine hP.rounds (hP.bind (hP.evaluate hr hf c) fun v _ => ?_) _
    split
    · exact hP.bind (executeAll hf body) fun _ known => hP.value known.afterRound
    · exact hP.bind (executeAll hf other) fun _ known =>
        hP.value fun _ same => Option.some.inj same ▸ known
  | each _ target source body other =>
    exact hP.bind (hP.evaluate hr hf source) fun v hv =>
      hP.bind (hP.items hv) fun vs hvs =>
        hP.overValues (fun v hv => hP.bind (hP.bindTarget hr hf target hv) fun _ _ =>
          executeAll hf body) (executeAll hf other) hvs
  | attempt body handlers other last =>
    refine hP.bind (hP.caught (Q := .flow) (hP.bind (hP.caught (executeAll hf body))
      fun x given => ?_)) fun result given => hP.bind (executeAll hf last) fun flow known => ?_
    · split
      · exact executeAll hf other
      · exact hP.value (given _ rfl)
      · exact handle hf _ handlers
    · split
      · exact hP.ofExcept given
      · exact hP.value known
  | within _ contexts _ =>
    cases contexts with
    | nil => exact hP.value trivial
    | cons c _ => exact hP.bind (hP.evaluate hr hf c.1) fun _ _ => hP.raised _
  | define head body => exact hP.define hr hf head body
  | defineClass name bases decorators body =>
    refine hP.bind (hP.evaluateItems hr hf decorators) fun _ hds =>
      hP.bind (hP.evaluateArguments hr hf bases) fun _ _ =>
        hP.calling (Q := .flow) Namespace.Known.empty (fun space seen => ?_)
          fun result given => hP.bind (hP.ofExcept given) fun _ _ =>
            hP.bind (hP.decorate hr (H.isKind.inert rfl) hds) fun v hv =>
              hP.bind (hP.bindName hf name hv) fun _ _ => hP.value trivial
    exact executeAll (.inside hf.home seen _ _) body
  | defineAs name behaviour =>
    exact hP.bind (hP.bindName hf _ (H.knows_function hf.home behaviour.inert)) fun _ _ =>
      hP.value trivial
  | emit e =>
    exact hP.bind (hP.evaluate hr hf e) fun v _ => hP.bind (hP.emits v) fun _ _ =>
      hP.value trivial
  | emitGlobals =>
    refine hP.looks (fun e e' same => ?_) fun _ _ => hP.bind (hP.emits _) fun _ _ =>
      hP.value trivial
    unfold Engine.names
    rw [same.space? _ hf.sees]
  | emitNames e =>
    exact hP.bind (hP.evaluate hr hf e) fun v hv => hP.bind (hP.namesOf hv) fun _ _ =>
      hP.bind (hP.emits _) fun _ _ => hP.value trivial
  | globalKey v =>
    exact hP.bind (hP.ofExcept (Q := .any) fun _ _ => trivial) fun key _ =>
      hP.bind (hP.updates hf.sees fun _ h => h.noteKey key _) fun _ _ =>
        hP.bind (hP.updates hf.sees fun _ h => h.set key (H.isKind.inert rfl)) fun _ _ =>
          hP.value trivial
  | log level text =>
    unfold Run.execute
    split
    · exact hP.bind (hP.logs _ text) fun _ _ => hP.value trivial
    · exact hP.bind (Q := .any) (hP.raised _) fun _ _ => hP.value trivial
  | writeFile path text => exact hP.bind (hP.writes path text) fun _ _ => hP.value trivial

theorem executeAll {f : Frame} (hf : f.Known H) (body : List Statement) :
    P .flow (executeAll r f body) := by
  unfold Run.executeAll
  split
  · exact hP.value trivial
  · refine hP.bind (execute hf _) fun flow known => ?_
    split
    · exact executeAll hf _
    · exact hP.value known

theorem handle {f : Frame} (hf : f.Known H) (e : Raised) (handlers : List Statement) :
    P .flow (handle r f e handlers) := by
  unfold Run.handle
  split
  · exact hP.raised _
  · next type name body rest =>
    have goesOn (found : Bool) : P .flow (do
        if found then
          if let some n := name then Run.bindName f n (.exception e)
          let result ← outcome (Run.executeAll r { f with handled := some e } body)
          if let some n := name then change (·.unbind (f.homeOf n) n)
          Run.ofExcept result
        else Run.handle r f e rest) := by
      have ran := hP.caught (executeAll (hf.handling e) body)
      cases found with
      | false => exact handle hf e rest
      | true =>
        cases name with
        | none => exact hP.bind ran fun _ given => hP.ofExcept given
        | some n =>
          exact hP.bind (hP.bindName hf n (H.isKind.inert rfl)) fun _ _ => hP.bind ran
            fun _ given => hP.bind (hP.unbinds (hf.homeOf n) n) fun _ _ => hP.ofExcept given
    cases type with
    | none => exact goesOn true
    | some t =>
      exact hP.bind (hP.evaluate hr hf t) fun _ _ =>
        hP.bind (hP.ofExcept (Q := .any) fun _ _ => trivial) fun found _ => goesOn found
  · exact handle hf e _

end

/-! ## Programs -/

theorem executeProgram {home : Home} (known : H.KnowsHome home) (program : List Statement) :
    P .any (executeProgram r home program) := by
  have hf : (Frame.ofHome home).Known H := .ofHome known
  have carriedOut : P .any (do let _ ← Run.executeAll r (.ofHome home) program) :=
    hP.bind (hP.executeAll hr hf program) fun _ _ => hP.value trivial
  unfold Run.executeProgram
  dsimp only
  cases Statement.summary? program with
  | none =>
    dsimp only
    split
    · exact hP.bind (hP.prepareTypes hf) fun _ _ => carriedOut
    · exact carriedOut
  | some c =>
    have summarized := hP.bind (hP.bindName hf summaryName (H.isKind.inert c.inert)) fun _ _ =>
      carriedOut
    dsimp only
    split
    · exact hP.bind (hP.prepareTypes hf) fun _ _ => summarized
    · exact summarized

theorem runCode (name : String) {home : Home} (known : H.KnowsHome home) {code : Code}
    (coded : code.Known H) {args : List Value} (hargs : ∀ v ∈ args, H.Knows v)
    {named : List (String × Value)} (hnamed : ∀ d ∈ named, H.Knows d.2) :
    P .value (runCode r name home code args named) := by
  refine hP.bind (hP.ofExcept (Q := .named) (H.isKind.bindArguments name coded hargs hnamed))
    fun bound given => ?_
  split
  · exact hP.value (H.isKind.inert rfl)
  · refine hP.calling (.ofList given)
      (fun space seen => hP.executeAll hr (.inside known seen _ _) code.body) fun result ended => ?_
    refine hP.bind (hP.ofExcept ended) fun flow hflow => ?_
    split
    · exact hP.value hflow
    · exact hP.value (H.isKind.inert rfl)

theorem callWith {f : Value} (callee : H.Knows f) {args : List Value}
    (hargs : ∀ v ∈ args, H.Knows v) {named : List (String × Value)}
    (hnamed : ∀ d ∈ named, H.Knows d.2) : P .value (callWith r f args named) := by
  unfold Run.callWith
  split
  · next name behaviour home =>
    have known := H.home_of_knows callee
    have seen := H.sees_of_knows known
    split
    · refine hP.looks (fun e e' same => ?_) fun e knownEngine => ?_
      · unfold Engine.code?
        rw [same.space? _ seen]
      · split
        · next code found => exact hP.runCode hr _ known (knownEngine.code? seen found) hargs hnamed
        · exact hP.value (H.isKind.inert rfl)
    · split
      · exact hP.ofExcept (.error _)
      · exact hP.behave hr callee hargs
  · exact hP.ofExcept (H.isKind.callType _ hargs)
  · exact hP.ofExcept (H.isKind.callBuiltin _ hargs)
  · exact hP.raised _

/-! ## Imports -/

theorem places (name : String) : P .any (places r name) := by
  have searched : P .any (do return (← engine).searchPath) :=
    hP.looks (fun _ _ same => by rw [same.searchPath]) fun _ _ => hP.value trivial
  unfold Run.places
  split
  · exact searched
  · refine hP.bind (hr.importModule _) fun package known =>
      hP.looks (fun e e' same => ?_) fun e _ => ?_
    · rw [same.global? (H.sees_of_knows known)]
    · split
      · exact searched
      · exact hP.ofExcept fun _ _ => trivial
      · exact hP.raised _

omit hr in
theorem bindInParent (name : String) {home : Home} (known : H.KnowsHome home) :
    P .any (bindInParent name home) := by
  unfold Run.bindInParent
  split
  · refine hP.looks (fun e e' same => ?_) fun e knownEngine => ?_
    · rw [same.module?]
    · split
      · next package found =>
        exact hP.binds (H.sees_of_knows (knownEngine.module? found)) _ known
      · exact hP.value trivial
  · exact hP.value trivial

theorem loadNew (name : String) : P .home (loadNew r name) := by
  have found : P .home (loadFound r name) :=
    hP.bind (hP.places hr name) fun entries _ => hP.loading fun _ program known =>
      hP.executeProgram hr known program
  have standard : P .home (loadStandard r name) := by
    have added : P .home (addModule name (Finder.standardNames name)) :=
      hP.adds _ (.standardNames name)
    unfold Run.loadStandard
    split
    · exact hP.bind (hr.importModule _) fun _ _ => added
    · exact added
  have finished (home : Home) (known : H.KnowsHome home) : P .home (do
      Run.bindInParent name home
      return home) := hP.bind (hP.bindInParent name known) fun _ _ => hP.value known
  unfold Run.loadNew
  dsimp only
  split
  · exact hP.bind standard finished
  · exact hP.bind found finished

theorem importWith (name : String) : P .home (importWith r name) := by
  have imported : P .home (do
      match (← engine).module? name with
      | some home => return home
      | none => Run.loadNew r name) := by
    refine hP.looks (fun e e' same => ?_) fun e known => ?_
    · rw [same.module?]
    · split
      · next found => exact hP.value (known.module? found)
      · exact hP.loadNew hr name
  unfold Run.importWith
  split
  · exact hP.bind (Q := .any) (hP.raised _) fun _ _ => imported
  · exact imported

/-! ## Nesting -/

omit hr

theorem reach (levels : Nat) : (reach levels).Has H P := by
  induction levels with
  | zero => exact ⟨fun _ _ _ => hP.raised _, fun _ => hP.raised _⟩
  | succ levels ih =>
    exact ⟨fun callee hargs hnamed => hP.callWith ih callee hargs hnamed, hP.importWith ih⟩

theorem call {f : Value} (callee : H.Knows f) {args : List Value}
    (hargs : ∀ v ∈ args, H.Knows v) : P .value (call f args) :=
  (hP.reach depth).call callee hargs fun _ none => nomatch none

theorem attributeOf {v : Value} (known : H.Knows v) (field : String) :
    P .value (attributeOf v field) :=
  hP.attributeWith (hP.reach depth) known field

theorem importModule (name : String) : P .home (importModule name) :=
  hP.bind ((hP.reach depth).importModule name) fun _ known =>
    hP.bind ((hP.reach depth).importModule _) fun _ _ => hP.value known

theorem runProgram {home : Home} (known : H.KnowsHome home) (program : List Statement) :
    P .any (runProgram home program) :=
  hP.executeProgram (hP.reach depth) known program

end Run.IsClosedOn

/-! ## Properties that do not depend on values -/

namespace Run

/-- The same for a property that does not depend on values. -/
structure IsClosed (P : ∀ {α : Type}, Run α → Prop) : Prop where
  value {α : Type} (a : α) : P (pure a : Run α)
  raised {α : Type} (e : Raised) : P (throw e : Run α)
  bind {α β : Type} {r : Run α} {k : α → Run β} (first : P r) (second : ∀ a, P (k a)) :
    P (r >>= k)
  caught {α : Type} {r : Run α} (h : P r) : P (outcome r)
  looks : P engine
  updates (home : Home) (f : Namespace → Namespace) : P (change (·.update home f))
  emits (v : Value) : P (change (·.emit v))
  logs (severity : Severity) (message : String) : P (log severity message)
  writes (path text : String) : P (writeFile path text)
  /-- Work with a namespace that is gone afterwards. -/
  calling {α β : Type} (ns : Namespace) {body : Home → Run α} {k : Except Raised α → Run β}
    (inner : ∀ space, P (body space)) (rest : ∀ x, P (k x)) :
    P (do
      let space ← allocate ns
      let x ← outcome (body space)
      change (·.release space)
      k x)
  adds (name : String) (names : Namespace) : P (addModule name names)
  /-- The import of a module unless there is one. -/
  loading {r : Reach} {name : String} {entries : List String}
    (program : ∀ home statements, P (executeProgram r home statements)) :
    P (do
      match (← engine).module? name with
      | some home => return home
      | none =>
        match ← search entries name with
        | some found => load r name found
        | none => throw (notFound name))

namespace IsClosed

variable {α : Type} {P : ∀ {α : Type}, Run α → Prop} (hP : IsClosed P)

include hP

/-- All values and homes count. -/
theorem on_all : IsClosedOn .all fun {_} _ r => P r where
  value _ := hP.value _
  raised e := hP.raised e
  bind {_ _ Q _ _ _} first second := hP.bind first fun a => second a (Q.total (fun _ => trivial) a)
  caught h := hP.caught h
  looks _ rest := hP.bind hP.looks fun e => rest e e.known_all
  updates _ _ _ := hP.updates _ _
  emits v := hP.emits v
  logs severity message := hP.logs severity message
  writes path text := hP.writes path text
  calling {_ _ Q _ _ _ _} _ inner rest := hP.calling _ (fun space => inner space trivial) fun x =>
    rest x fun a _ => Q.total (fun _ => trivial) a
  adds name _ _ := hP.adds name _
  loading program := hP.loading fun home statements => program home statements trivial

theorem ofExcept (x : Except Raised α) : P (ofExcept x) :=
  hP.on_all.ofExcept (Q := .any) fun _ _ => trivial

theorem reach (levels : Nat) : (reach levels).Has .all fun {_} _ r => P r :=
  hP.on_all.reach levels

theorem executeProgram {r : Reach} (hr : r.Has .all fun {_} _ r => P r) (home : Home)
    (program : List Statement) : P (executeProgram r home program) :=
  hP.on_all.executeProgram hr trivial program

theorem call (f : Value) (args : List Value) : P (call f args) :=
  hP.on_all.call trivial fun _ _ => trivial

theorem attributeOf (v : Value) (field : String) : P (attributeOf v field) :=
  hP.on_all.attributeOf trivial field

theorem importModule (name : String) : P (importModule name) :=
  hP.on_all.importModule name

theorem runProgram (home : Home) (program : List Statement) : P (runProgram home program) :=
  hP.on_all.runProgram trivial program

end IsClosed

end Run

end EmbeddedPython
