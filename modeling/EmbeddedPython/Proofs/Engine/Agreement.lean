import EmbeddedPython.Proofs.Engine.Twins

/-!
# Modest programs agree on twins

`Run.Agree` says of two pieces of work that, done on twins, they end the same way,
with a value that has a property, and leave twins behind; and that on the left
nothing is touched on the way if the program is quiet.

Two runs of a modest program agree: `agree_evaluate` and `agree_execute` follow the
form of the program, `agrees_reach` how deep calls nest, and `agree_executeProgram`
puts them together.  In the same way a call of a modest value agrees
(`agrees_reach`).
-/

namespace EmbeddedPython

/-- Two frames of the same statement.  The names that belong to the call are the
same, and so is the exception that is being handled. -/
structure Frame.Twins (S : Setting) (calls : List (Home × Home)) (own : Option (List String))
    (f g : Frame) : Prop where
  left : f.home = S.home
  right : g.home = S.home
  handled : f.handled = g.handled
  locals : (own = none ∧ f.locals = none ∧ g.locals = none) ∨
    ∃ p ∈ calls, ∃ names, p.1 ≠ S.home ∧ own = some names ∧ f.locals = some ⟨p.1, names⟩ ∧
      g.locals = some ⟨p.2, names⟩

namespace Frame.Twins

variable {S : Setting} {calls : List (Home × Home)} {own : Option (List String)} {f g : Frame}

theorem ofHome : Twins S calls none (.ofHome S.home) (.ofHome S.home) :=
  ⟨rfl, rfl, rfl, .inl ⟨rfl, rfl, rfl⟩⟩

theorem ofCall {p : Home × Home} (names : List String) (apart : p.1 ≠ S.home)
    {handled : Option Raised} :
    Twins S (p :: calls) (some names) ⟨S.home, some ⟨p.1, names⟩, handled⟩
      ⟨S.home, some ⟨p.2, names⟩, handled⟩ :=
  ⟨rfl, rfl, rfl, .inr ⟨p, List.mem_cons_self, names, apart, rfl, rfl, rfl⟩⟩

theorem handling (h : Twins S calls own f g) (e : Raised) :
    Twins S calls own { f with handled := some e } { g with handled := some e } :=
  ⟨h.left, h.right, rfl, h.locals⟩

theorem isLocal (h : Twins S calls own f g) (name : String) : f.isLocal name = g.isLocal name := by
  unfold Frame.isLocal
  rcases h.locals with ⟨-, hf, hg⟩ | ⟨p, -, names, -, -, hf, hg⟩
  · rw [hf, hg]
  · rw [hf, hg]
    rfl

theorem isNone_locals (h : Twins S calls own f g) :
    f.locals.isNone = own.isNone ∧ g.locals.isNone = own.isNone := by
  rcases h.locals with ⟨hown, hf, hg⟩ | ⟨p, -, names, -, hown, hf, hg⟩ <;>
    rw [hown, hf, hg] <;> exact ⟨rfl, rfl⟩

/-- A name that may be used is a covered one of a pair of namespaces. -/
theorem homeOf (h : Twins S calls own f g) {name : String} (allowed : Expr.mayUse own name) :
    (f.homeOf name, g.homeOf name) ∈ S.pairs calls ∧ S.covers (f.homeOf name) name := by
  have globals : (S.home, S.home) ∈ S.pairs calls := List.mem_append_right _ List.mem_cons_self
  unfold Expr.mayUse at allowed
  unfold Frame.homeOf Setting.covers
  rcases h.locals with ⟨hown, hf, hg⟩ | ⟨p, there, names, apart, hown, hf, hg⟩
  · rw [hf, hg, h.left, h.right]
    rw [hown] at allowed
    exact ⟨globals, by rw [show Scope.isOrdinary name = true from allowed, Bool.or_true]⟩
  · rw [hf, hg, h.left, h.right]
    rw [hown] at allowed
    dsimp only
    split
    · exact ⟨List.mem_append_left _ there, by rw [bne_iff_ne.2 apart, Bool.true_or]⟩
    · next outer =>
      have ordinary : Scope.isOrdinary name = true := by
        rw [Option.map_some, Option.getD_some, Bool.or_eq_true] at allowed
        exact allowed.resolve_left outer
      exact ⟨globals, by rw [ordinary, Bool.or_true]⟩

/-- A name that does not belong to the call is an ordinary one. -/
theorem ordinary (h : Twins S calls own f g) {name : String} (allowed : Expr.mayUse own name)
    (outer : f.isLocal name = false) : Scope.isOrdinary name := by
  have mine : f.isLocal name = (own.map fun names => names.contains name).getD false := by
    unfold Frame.isLocal
    rcases h.locals with ⟨hown, hf, -⟩ | ⟨p, -, names, -, hown, hf, -⟩ <;> rw [hown, hf] <;> rfl
  unfold Expr.mayUse at allowed
  rwa [← mine, outer, Bool.false_or] at allowed

end Frame.Twins

/-- A flow that ends with no value but a modest one. -/
def Setting.Flows (S : Setting) : Flow → Prop
  | .returned v => S.Modest v
  | .next | .leave | .proceed => True

namespace Run

variable {α β : Type} {S : Setting} {calls : List (Home × Home)}

/-- Two pieces of work agree on two workspaces. -/
structure AgreeAt (S : Setting) (calls : List (Home × Home)) (Q : α → Prop) (r q : Run α)
    (w v : Workspace) : Prop where
  same : (r.exec w).1 = (q.exec v).1
  gives : Gives Q (r.exec w).1
  twins : Twins S calls (r.exec w).2 (q.exec v).2
  stays : S.quiet → r.Stays S.Spares w

/-- Two pieces of work agree on all twins. -/
def Agree (S : Setting) (calls : List (Home × Home)) (Q : α → Prop) (r q : Run α) : Prop :=
  ∀ w v, Twins S calls w v → AgreeAt S calls Q r q w v

variable {P : β → Prop} {Q : α → Prop}

/-! ## Ways to put work together -/

theorem agree_ofExcept {x : Except Raised α} (h : Gives Q x) :
    Agree S calls Q (ofExcept x) (ofExcept x) := by
  intro w v twins
  refine ⟨?_, ?_, ?_, fun quiet => (stays_ofExcept x w).2 (twins.stays quiet)⟩
  · rw [exec_ofExcept, exec_ofExcept]
  · rw [exec_ofExcept]
    exact h
  · rw [exec_ofExcept, exec_ofExcept]
    exact twins

theorem agree_pure {a : α} (h : Q a) : Agree S calls Q (pure a) (pure a) :=
  agree_ofExcept (.ok h)

theorem agree_throw (e : Raised) : Agree S calls Q (throw e : Run α) (throw e) :=
  agree_ofExcept (.error e)

theorem Agree.bind {r q : Run α} {k l : α → Run β} (first : Agree S calls Q r q)
    (second : ∀ a, Q a → Agree S calls P (k a) (l a)) : Agree S calls P (r >>= k) (q >>= l) := by
  intro w v twins
  obtain ⟨same, gives, after, stays⟩ := first w v twins
  cases found : (r.exec w).1 with
  | ok a =>
    have left : r.exec w = (.ok a, (r.exec w).2) := Prod.ext found rfl
    have right : q.exec v = (.ok a, (q.exec v).2) := Prod.ext (same.symm.trans found) rfl
    obtain ⟨same', gives', after', stays'⟩ := second a (gives a found) _ _ after
    rw [← exec_bind_ok left, ← exec_bind_ok right] at same' after'
    rw [← exec_bind_ok left] at gives'
    exact ⟨same', gives', after', fun quiet =>
      (stays_bind_ok left).2 ⟨stays quiet, stays' quiet⟩⟩
  | error e =>
    have left : r.exec w = (.error e, (r.exec w).2) := Prod.ext found rfl
    have right : q.exec v = (.error e, (q.exec v).2) := Prod.ext (same.symm.trans found) rfl
    refine ⟨?_, ?_, ?_, fun quiet => (stays_bind r k w).2 ⟨stays quiet, fun a ends => ?_⟩⟩
    · rw [exec_bind_error left, exec_bind_error right]
    · rw [exec_bind_error left]
      exact .error e
    · rw [exec_bind_error left, exec_bind_error right]
      exact after
    · cases found.symm.trans ends

theorem agree_outcome {r q : Run α} (h : Agree S calls Q r q) :
    Agree S calls (Gives Q) (outcome r) (outcome q) := by
  intro w v twins
  obtain ⟨same, gives, after, stays⟩ := h w v twins
  refine ⟨?_, ?_, ?_, fun quiet => (stays_outcome r w).2 (stays quiet)⟩
  · rw [exec_outcome, exec_outcome, same]
  · rw [exec_outcome]
    exact .ok gives
  · rw [exec_outcome, exec_outcome]
    exact after

/-- Work that goes on as the engine says. -/
theorem agree_engine_bind {k l : Engine → Run α}
    (h : ∀ w v, Twins S calls w v → AgreeAt S calls Q (k w.engine) (l v.engine) w v) :
    Agree S calls Q (engine >>= k) (engine >>= l) := by
  intro w v twins
  obtain ⟨same, gives, after, stays⟩ := h w v twins
  refine ⟨?_, ?_, ?_, fun quiet =>
    (stays_bind_ok (exec_engine w)).2 ⟨(stays_engine w).2 (twins.stays quiet), stays quiet⟩⟩
  · rw [exec_bind_ok (exec_engine w), exec_bind_ok (exec_engine v), same]
  · rw [exec_bind_ok (exec_engine w)]
    exact gives
  · rw [exec_bind_ok (exec_engine w), exec_bind_ok (exec_engine v)]
    exact after

theorem agree_change {f g : Engine → Engine}
    (h : ∀ w v, Twins S calls w v →
      Twins S calls { w with engine := f w.engine } { v with engine := g v.engine }) :
    Agree S calls (fun _ => True) (change f) (change g) := by
  intro w v twins
  exact ⟨rfl, fun _ _ => trivial, h w v twins, fun quiet =>
    (stays_change f w).2 ⟨twins.stays quiet, (h w v twins).stays quiet⟩⟩

/-- Work with a namespace that is gone afterwards. -/
theorem agree_calling {ns : Namespace} {body body' : Home → Run α}
    {k l : Except Raised α → Run β}
    (agree : Namespace.Agree S.home S.quiet (fun _ => true) ns ns)
    (inner : ∀ p : Home × Home, p.1 ≠ S.home → Agree S (p :: calls) Q (body p.1) (body' p.2))
    (rest : ∀ x, Gives Q x → Agree S calls P (k x) (l x)) :
    Agree S calls P
      (do
        let space ← allocate ns
        let x ← outcome (body space)
        change (·.release space)
        k x)
      (do
        let space ← allocate ns
        let x ← outcome (body' space)
        change (·.release space)
        l x) := by
  intro w v twins
  obtain ⟨same, gives, after, stays⟩ :=
    inner (w.engine.fresh, v.engine.fresh) twins.home_ne_fresh _ _ (twins.allocate agree)
  obtain ⟨same', gives', after', stays'⟩ := rest _ gives _ _ after.release
  refine ⟨?_, ?_, ?_, fun quiet => (stays_calling ns body k w).2
    ⟨twins.stays quiet, stays quiet, stays' quiet⟩⟩
  · rw [exec_calling, exec_calling, same'.trans (by rw [same])]
  · rw [exec_calling]
    exact gives'
  · rw [exec_calling, exec_calling]
    dsimp only
    rw [← same]
    exact after'

/-! ## Names -/

section Names

variable {own : Option (List String)} {f g : Frame}

theorem agree_found {x y : Engine → Option Value} {e : Raised}
    (h : ∀ w v, Twins S calls w v →
      x w.engine = y v.engine ∧ ∀ a, x w.engine = some a → S.Modest a) :
    Agree S calls S.Modest
      (do
        match x (← engine) with
        | some a => return a
        | none => throw e)
      (do
        match y (← engine) with
        | some a => return a
        | none => throw e) := by
  refine agree_engine_bind fun w v twins => ?_
  obtain ⟨same, modest⟩ := h w v twins
  rw [← same]
  cases found : x w.engine with
  | none => exact agree_throw e w v twins
  | some a =>
    exact agree_pure (Q := S.Modest) (modest a found) w v twins

theorem agree_lookUp {name : String} (ordinary : Scope.isOrdinary name) :
    Agree S calls S.Modest (lookUp S.home name)
      (lookUp S.home name) :=
  agree_found (x := fun e => e.resolve? S.home name) (y := fun e => e.resolve? S.home name)
    fun _ _ twins => twins.resolve? ordinary

theorem agree_readName (h : f.Twins S calls own g) {name : String}
    (allowed : Expr.mayUse own name) :
    Agree S calls S.Modest (readName f name) (readName g name) := by
  unfold readName
  rw [← h.isLocal name]
  cases isLocal : f.isLocal name with
  | true =>
    obtain ⟨mine, covered⟩ := h.homeOf allowed
    exact agree_found (x := fun e => e.global? (f.homeOf name) name)
      (y := fun e => e.global? (g.homeOf name) name) fun _ _ twins => twins.global? mine covered
  | false =>
    rw [h.left, h.right]
    exact agree_lookUp (h.ordinary allowed isLocal)

theorem agree_bindName (h : f.Twins S calls own g) {name : String}
    (allowed : Expr.mayUse own name) {x : Value} (modest : S.Modest x) :
    Agree S calls (fun _ => True) (bindName f name x) (bindName g name x) := by
  obtain ⟨mine, covered⟩ := h.homeOf allowed
  exact agree_change fun w v twins => twins.update mine fun a b agree =>
    agree.set (.inl covered) modest

theorem agree_unbind (h : f.Twins S calls own g) {name : String}
    (allowed : Expr.mayUse own name) :
    Agree S calls (fun _ => True) (change (·.unbind (f.homeOf name) name))
      (change (·.unbind (g.homeOf name) name)) :=
  agree_change fun _ _ twins => twins.update (h.homeOf allowed).1 fun _ _ agree => agree.erase name

theorem agree_deleteName (h : f.Twins S calls own g) {name : String}
    (allowed : Expr.mayUse own name) :
    Agree S calls (fun _ => True) (deleteName f name) (deleteName g name) := by
  obtain ⟨mine, covered⟩ := h.homeOf allowed
  refine agree_engine_bind fun w v twins => ?_
  dsimp only
  rw [← (twins.global? mine covered).1, ← h.isLocal name]
  split
  · exact (agree_throw _).bind (Q := fun _ => True) (fun _ _ => agree_unbind h allowed) w v twins
  · exact agree_unbind h allowed w v twins

/-- A code has the same number in both. -/
theorem agree_makeFunction (h : f.Twins S calls own g) (name : String) {code : Code}
    (modest : code.isModest S.home S.quiet) :
    Agree S calls S.Modest (makeFunction f name code)
      (makeFunction g name code) := by
  have globals : (S.home, S.home) ∈ S.pairs calls := List.mem_append_right _ List.mem_cons_self
  have added : Agree S calls (fun _ => True) (addCode f.home code) (addCode g.home code) := by
    rw [h.left, h.right]
    refine agree_engine_bind fun w v twins => ?_
    obtain ⟨a, b, ha, hb, agree⟩ := twins.spaces _ globals
    rw [ha, hb, Option.map_some, Option.map_some, agree.codes]
    exact (agree_change fun _ _ twins => twins.update globals fun _ _ agree =>
      agree.addCode modest).bind (fun _ _ => agree_pure trivial) w v twins
  refine added.bind fun number _ => ?_
  rw [h.left, h.right]
  exact agree_pure (Bool.and_eq_true_iff.2 ⟨beq_self_eq_true S.home, rfl⟩)

theorem agree_raiseValue (v : Value) :
    Agree S calls Q (raiseValue v : Run α) (raiseValue v) := by
  unfold raiseValue
  split
  · exact agree_throw _
  · split
    · exact (agree_ofExcept (Q := fun _ => True) fun _ _ => trivial).bind fun _ _ => agree_throw _
    · exact agree_throw _
  · exact agree_throw _

theorem agree_increase (inPlace : Bool) {name : String} (ordinary : Scope.isOrdinary name) :
    Agree S calls S.Modest (increase inPlace S.home name)
      (increase inPlace S.home name) := by
  refine (agree_lookUp ordinary).bind fun v modest => ?_
  refine (agree_ofExcept (S.isKind.binary inPlace .add modest rfl)).bind fun sum added => ?_
  have allowed : Expr.mayUse none name := ordinary
  exact (agree_bindName .ofHome allowed added).bind fun _ _ => agree_pure added

end Names

/-! ## Values -/

/-- A modest value is no module, so its attributes are its own. -/
theorem agree_attributeWith (r : Reach) {v : Value} (modest : S.Modest v)
    (field : String) :
    Agree S calls S.Modest (attributeWith r v field)
      (attributeWith r v field) := by
  unfold attributeWith
  split
  · cases modest
  · split
    · next found => exact agree_pure (S.isKind.inert (isInert_ownAttribute? found))
    · exact agree_throw _

end Run

/-- Calls of modest values agree, wherever they are made. -/
def Reach.Agrees (S : Setting) (r : Reach) : Prop :=
  ∀ calls f args named, S.Modest f → (∀ v ∈ args, S.Modest v) → (∀ d ∈ named, S.Modest d.2) →
    Run.Agree S calls S.Modest (r.call f args named) (r.call f args named)

namespace Run

variable {r : Reach} (hr : r.Agrees S) {own : Option (List String)} {f g : Frame}

/-- What a modest function does with its arguments. -/
theorem agree_behave (hr : r.Agrees S) (name : String) {behaviour : Behaviour Value}
    (modest : behaviour.isModest S.quiet) {args : List Value} (hargs : ∀ v ∈ args, S.Modest v) :
    Agree S calls S.Modest (behave r name S.home behaviour args)
      (behave r name S.home behaviour args) := by
  cases behaviour with
  | arguments => exact agree_pure (Value.areModest_iff.2 hargs)
  | argumentList => exact agree_pure (Value.areModest_iff.2 hargs)
  | typeNames =>
    refine agree_pure (Value.areModest_iff.2 fun x hx => ?_)
    obtain ⟨v, -, rfl⟩ := List.mem_map.1 hx
    rfl
  | count | nothing | code _ => exact agree_pure rfl
  | homeName => cases modest
  | argument index =>
    unfold behave
    dsimp only
    split
    · next found => exact agree_pure (hargs _ (Operation.mem_of_item? found))
    · exact agree_throw _
  | constant _ => exact agree_pure (S.isKind.inert modest)
  | emit v =>
    have loud : S.quiet = false := by simpa [Behaviour.isModest] using modest
    exact (agree_change fun _ _ twins => twins.emit loud v).bind fun _ _ => agree_pure rfl
  | raising kind text =>
    refine (agree_lookUp modest).bind fun type known => ?_
    cases text with
    | none => exact agree_raiseValue type
    | some text =>
      refine (hr calls type [.str text] [] known (fun v hv => ?_)
        fun _ hd => absurd hd List.not_mem_nil).bind fun v _ => agree_raiseValue v
      rw [List.mem_singleton.1 hv]
      rfl
  | global n => exact agree_lookUp modest
  | call n =>
    exact (agree_lookUp modest).bind fun f known =>
      hr calls f args [] known hargs fun _ hd => absurd hd List.not_mem_nil
  | increment n => exact agree_increase true modest
  | rebind n => exact agree_increase false modest
  | pair =>
    unfold behave
    dsimp only
    split
    · exact agree_pure (Value.areModest_iff.2 hargs)
    · exact agree_throw _

/-! ## Expressions -/

section Rows

omit hr

/-! What is done with the first of several expressions, and then with the others.  An
expression that stands for several values has the value of what it is made of. -/

variable {e : Expr} {rest : List Expr}
  (first : Agree S calls S.Modest (evaluate r f e) (evaluate r g e))

include first

theorem agree_evaluateItems_cons
    (others : Agree S calls (fun vs => ∀ v ∈ vs, S.Modest v) (evaluateItems r f rest)
      (evaluateItems r g rest)) :
    Agree S calls (fun vs => ∀ v ∈ vs, S.Modest v) (evaluateItems r f (e :: rest))
      (evaluateItems r g (e :: rest)) := by
  unfold evaluateItems
  split
  · next same => cases same
  · next same =>
    cases same
    refine first.bind fun v hv => (agree_ofExcept (S.isKind.items hv)).bind fun vs hvs =>
      others.bind fun more hmore => agree_pure fun x hx => ?_
    exact (List.mem_append.1 hx).elim (hvs x) (hmore x)
  · next same =>
    cases same
    exact first.bind fun v hv => others.bind fun more hmore =>
      agree_pure (List.forall_mem_cons.2 ⟨hv, hmore⟩)

theorem agree_evaluateArguments_cons
    (others : Agree S calls (fun a => (∀ v ∈ a.1, S.Modest v) ∧ ∀ d ∈ a.2, S.Modest d.2)
      (evaluateArguments r f rest) (evaluateArguments r g rest)) :
    Agree S calls (fun a => (∀ v ∈ a.1, S.Modest v) ∧ ∀ d ∈ a.2, S.Modest d.2)
      (evaluateArguments r f (e :: rest)) (evaluateArguments r g (e :: rest)) := by
  unfold evaluateArguments
  split
  all_goals
    rename_i same
    cases same
  · refine first.bind fun v hv => (agree_ofExcept (S.isKind.items hv)).bind fun vs hvs =>
      others.bind fun (positional, named) hmore => ?_
    refine agree_pure ⟨fun x hx => ?_, hmore.2⟩
    exact (List.mem_append.1 hx).elim (hvs x) (hmore.1 x)
  · refine first.bind fun v hv => others.bind fun (positional, named) hmore => ?_
    exact agree_pure ⟨hmore.1, List.forall_mem_cons.2 ⟨hv, hmore.2⟩⟩
  · exact first.bind fun _ _ => others
  · refine first.bind fun v hv => others.bind fun (positional, named) hmore => ?_
    exact agree_pure ⟨List.forall_mem_cons.2 ⟨hv, hmore.1⟩, hmore.2⟩

theorem agree_evaluateDefaults_cons
    (others : Agree S calls (fun ds => ∀ d ∈ ds, S.Modest d.2) (evaluateDefaults r f rest)
      (evaluateDefaults r g rest)) :
    Agree S calls (fun ds => ∀ d ∈ ds, S.Modest d.2) (evaluateDefaults r f (e :: rest))
      (evaluateDefaults r g (e :: rest)) := by
  unfold evaluateDefaults
  split
  all_goals
    rename_i same
    cases same
  · exact first.bind fun v hv => others.bind fun more hmore =>
      agree_pure (List.forall_mem_cons.2 ⟨hv, hmore⟩)
  · exact others

theorem agree_compareAll_cons (a : Value) (comparisons : List Comparison)
    (others : ∀ b comparisons, Agree S calls S.Modest (compareAll r f b comparisons rest)
      (compareAll r g b comparisons rest)) :
    Agree S calls S.Modest (compareAll r f a comparisons (e :: rest))
      (compareAll r g a comparisons (e :: rest)) := by
  unfold compareAll
  split
  · next same =>
    cases same
    refine first.bind fun b _ =>
      (agree_ofExcept (Q := fun _ => True) fun _ _ => trivial).bind fun holds _ => ?_
    split
    · exact others b _
    · exact agree_pure rfl
  · exact agree_pure rfl

end Rows

set_option linter.unusedSectionVars false

include hr

mutual

theorem agree_evaluate (h : f.Twins S calls own g) {e : Expr} (modest : e.isModest own) :
    Agree S calls S.Modest (evaluate r f e) (evaluate r g e) := by
  cases e with
  | constant _ => exact agree_pure (S.isKind.inert modest)
  | name n => exact agree_readName h modest
  | display kind items =>
    exact (agree_evaluateItems h modest).bind fun vs hvs =>
      agree_ofExcept (S.isKind.collect kind hvs)
  | entry k v =>
    obtain ⟨hk, hv⟩ := Bool.and_eq_true_iff.1 modest
    refine (agree_evaluate h hk).bind fun key _ => (agree_evaluate h hv).bind fun _ _ => ?_
    split
    · exact agree_throw _
    · exact agree_pure rfl
  | starred e | spread e | keyword _ e | awaiting e =>
    exact agree_evaluate (e := e) h modest
  | member e field =>
    exact (agree_evaluate (e := e) h modest).bind fun v hv => agree_attributeWith r hv field
  | subscript e index =>
    obtain ⟨he, hi⟩ := Bool.and_eq_true_iff.1 modest
    refine (agree_evaluate h he).bind fun v hv => (agree_evaluate h hi).bind fun i _ => ?_
    split
    · exact agree_pure rfl
    · exact agree_ofExcept (S.isKind.subscript hv _)
  | slice bounds => exact (agree_evaluateItems h modest).bind fun _ _ => agree_pure rfl
  | call e args =>
    obtain ⟨he, hargs⟩ := Bool.and_eq_true_iff.1 modest
    exact (agree_evaluate h he).bind fun v hv => (agree_evaluateArguments h hargs).bind
      fun a ha => hr calls v a.1 a.2 hv ha.1 ha.2
  | unary op e =>
    exact (agree_evaluate (e := e) h modest).bind fun v _ =>
      agree_ofExcept (S.isKind.unary op v)
  | binary op a b =>
    obtain ⟨ha, hb⟩ := Bool.and_eq_true_iff.1 modest
    exact (agree_evaluate h ha).bind fun x hx => (agree_evaluate h hb).bind fun y hy =>
      agree_ofExcept (S.isKind.binary false op hx hy)
  | compare a comparisons others =>
    obtain ⟨ha, hothers⟩ := Bool.and_eq_true_iff.1 modest
    exact (agree_evaluate h ha).bind fun v _ => agree_compareAll h v comparisons hothers
  | both a b =>
    obtain ⟨ha, hb⟩ := Bool.and_eq_true_iff.1 modest
    refine (agree_evaluate h ha).bind fun v hv => ?_
    split
    · exact agree_evaluate h hb
    · exact agree_pure hv
  | either a b =>
    obtain ⟨ha, hb⟩ := Bool.and_eq_true_iff.1 modest
    refine (agree_evaluate h ha).bind fun v hv => ?_
    split
    · exact agree_pure hv
    · exact agree_evaluate h hb
  | conditional c a b =>
    obtain ⟨hca, hb⟩ := Bool.and_eq_true_iff.1 modest
    obtain ⟨hc, ha⟩ := Bool.and_eq_true_iff.1 hca
    refine (agree_evaluate h hc).bind fun v _ => ?_
    split
    · exact agree_evaluate h ha
    · exact agree_evaluate h hb
  | binding n e =>
    obtain ⟨hn, he⟩ := Bool.and_eq_true_iff.1 modest
    exact (agree_evaluate h he).bind fun v hv => (agree_bindName h hn hv).bind fun _ _ =>
      agree_pure hv
  | function signature defaults body =>
    obtain ⟨hdefaults, hbody⟩ := Bool.and_eq_true_iff.1 modest
    refine (agree_evaluateDefaults h hdefaults).bind fun given hgiven =>
      agree_makeFunction h _ ?_
    rw [Code.isModest, Bool.and_eq_true, List.all_eq_true]
    exact ⟨hgiven, Bool.and_eq_true_iff.2 ⟨hbody, rfl⟩⟩
  | comprehension kind item parts =>
    exact (agree_evaluateSource h modest).bind fun _ _ => agree_pure rfl
  | template parts => exact (agree_evaluateItems h modest).bind fun _ _ => agree_pure rfl
  | formatted e conversion format =>
    cases format with
    | none => exact (agree_evaluate (e := e) h modest).bind fun _ _ => agree_pure rfl
    | some spec =>
      obtain ⟨he, hspec⟩ := Bool.and_eq_true_iff.1 modest
      exact (agree_evaluate h he).bind fun _ _ => (agree_evaluate h hspec).bind fun _ _ =>
        agree_pure rfl
  | yielding e => exact agree_pure rfl

theorem agree_evaluateItems (h : f.Twins S calls own g) {items : List Expr}
    (modest : Expr.areModest own items) :
    Agree S calls (fun vs => ∀ v ∈ vs, S.Modest v) (evaluateItems r f items)
      (evaluateItems r g items) := by
  cases items with
  | nil => exact agree_pure fun _ hv => nomatch hv
  | cons e rest =>
    obtain ⟨he, hrest⟩ := Bool.and_eq_true_iff.1 modest
    exact agree_evaluateItems_cons (agree_evaluate h he) (agree_evaluateItems h hrest)

theorem agree_evaluateArguments (h : f.Twins S calls own g) {args : List Expr}
    (modest : Expr.areModest own args) :
    Agree S calls (fun a => (∀ v ∈ a.1, S.Modest v) ∧ ∀ d ∈ a.2, S.Modest d.2)
      (evaluateArguments r f args) (evaluateArguments r g args) := by
  cases args with
  | nil => exact agree_pure ⟨fun _ hv => (nomatch hv), fun _ hd => absurd hd List.not_mem_nil⟩
  | cons e rest =>
    obtain ⟨he, hrest⟩ := Bool.and_eq_true_iff.1 modest
    exact agree_evaluateArguments_cons (agree_evaluate h he) (agree_evaluateArguments h hrest)

theorem agree_evaluateDefaults (h : f.Twins S calls own g) {defaults : List Expr}
    (modest : Expr.areModest own defaults) :
    Agree S calls (fun ds => ∀ d ∈ ds, S.Modest d.2) (evaluateDefaults r f defaults)
      (evaluateDefaults r g defaults) := by
  cases defaults with
  | nil => exact agree_pure fun _ hd => absurd hd List.not_mem_nil
  | cons e rest =>
    obtain ⟨he, hrest⟩ := Bool.and_eq_true_iff.1 modest
    exact agree_evaluateDefaults_cons (agree_evaluate h he) (agree_evaluateDefaults h hrest)

theorem agree_compareAll (h : f.Twins S calls own g) (a : Value) (comparisons : List Comparison)
    {others : List Expr} (modest : Expr.areModest own others) :
    Agree S calls S.Modest (compareAll r f a comparisons others)
      (compareAll r g a comparisons others) := by
  cases others with
  | nil => cases comparisons <;> exact agree_pure rfl
  | cons e rest =>
    obtain ⟨he, hrest⟩ := Bool.and_eq_true_iff.1 modest
    exact agree_compareAll_cons (agree_evaluate h he) a comparisons
      fun b comparisons => agree_compareAll h b comparisons hrest

theorem agree_evaluateSource (h : f.Twins S calls own g) {parts : List Expr}
    (modest : Expr.startsModest own parts) :
    Agree S calls (fun _ => True) (evaluateSource r f parts) (evaluateSource r g parts) := by
  cases parts with
  | nil => exact agree_pure trivial
  | cons item rest =>
    cases rest with
    | nil => exact agree_pure trivial
    | cons source _ =>
      exact (agree_evaluate (e := source) h modest).bind fun v _ =>
        (agree_ofExcept (Q := fun _ => True) fun _ _ => trivial).bind fun _ _ => agree_pure trivial

end

/-! ## Targets -/

omit hr in
/-- A field of a modest value is no name of a module. -/
theorem agree_bindField {v : Value} (modest : S.Modest v) (field : String) (x : Value) :
    Agree S calls (fun _ => True) (bindField v field x) (bindField v field x) := by
  unfold bindField
  split
  · cases modest
  · exact agree_pure trivial
  · exact agree_throw _

omit hr in
theorem agree_bindItem (v : Value) :
    Agree S calls (fun _ => True) (bindItem v) (bindItem v) := by
  unfold bindItem
  split
  · exact agree_pure trivial
  · exact agree_pure trivial
  · exact agree_pure trivial
  · exact agree_throw _

mutual

theorem agree_bindTarget (h : f.Twins S calls own g) {e : Expr} (modest : e.isModest own)
    {v : Value} (hv : S.Modest v) :
    Agree S calls (fun _ => True) (bindTarget r f e v) (bindTarget r g e v) := by
  cases e with
  | name n => exact agree_bindName h modest hv
  | member e field =>
    exact (agree_evaluate hr (e := e) h modest).bind fun owner known =>
      agree_bindField known field v
  | subscript e i =>
    obtain ⟨he, hi⟩ := Bool.and_eq_true_iff.1 modest
    exact (agree_evaluate hr h he).bind fun owner _ => (agree_evaluate hr h hi).bind fun _ _ =>
      agree_bindItem owner
  | display _ targets =>
    exact (agree_ofExcept (S.isKind.valuesFor targets hv)).bind fun vs hvs =>
      agree_bindTargets h modest hvs
  | starred e => exact agree_bindTarget (e := e) h modest hv
  | _ => exact agree_pure trivial

theorem agree_bindTargets (h : f.Twins S calls own g) {targets : List Expr}
    (modest : Expr.areModest own targets) {vs : List Value} (hvs : ∀ v ∈ vs, S.Modest v) :
    Agree S calls (fun _ => True) (bindTargets r f targets vs) (bindTargets r g targets vs) := by
  cases targets with
  | nil => exact agree_pure trivial
  | cons e rest =>
    obtain ⟨he, hrest⟩ := Bool.and_eq_true_iff.1 modest
    cases vs with
    | nil => exact agree_pure trivial
    | cons v others =>
      obtain ⟨hv, hothers⟩ := List.forall_mem_cons.1 hvs
      exact (agree_bindTarget h he hv).bind fun _ _ => agree_bindTargets h hrest hothers

end

theorem agree_bindAll (h : f.Twins S calls own g) {v : Value} (hv : S.Modest v)
    {targets : List Expr} (modest : Expr.areModest own targets) :
    Agree S calls (fun _ => True) (bindAll r f v targets) (bindAll r g v targets) := by
  induction targets with
  | nil => exact agree_pure trivial
  | cons e rest ih =>
    obtain ⟨he, hrest⟩ := Bool.and_eq_true_iff.1 modest
    exact (agree_bindTarget hr h he hv).bind fun _ _ => ih hrest

mutual

theorem agree_deleteTarget (h : f.Twins S calls own g) {e : Expr} (modest : e.isModest own) :
    Agree S calls (fun _ => True) (deleteTarget r f e) (deleteTarget r g e) := by
  cases e with
  | name n => exact agree_deleteName h modest
  | member e field =>
    refine (agree_evaluate hr (e := e) h modest).bind fun v known => ?_
    split
    · cases known
    · exact agree_throw _
  | subscript e i =>
    obtain ⟨he, hi⟩ := Bool.and_eq_true_iff.1 modest
    exact (agree_evaluate hr h he).bind fun _ _ => (agree_evaluate hr h hi).bind fun _ _ =>
      agree_pure trivial
  | display _ targets => exact agree_deleteTargets h modest
  | _ => exact agree_pure trivial

theorem agree_deleteTargets (h : f.Twins S calls own g) {targets : List Expr}
    (modest : Expr.areModest own targets) :
    Agree S calls (fun _ => True) (deleteTargets r f targets) (deleteTargets r g targets) := by
  cases targets with
  | nil => exact agree_pure trivial
  | cons e rest =>
    obtain ⟨he, hrest⟩ := Bool.and_eq_true_iff.1 modest
    exact (agree_deleteTarget h he).bind fun _ _ => agree_deleteTargets h hrest

end

omit hr in
theorem agree_noteType (h : f.Twins S calls own g) (e : Expr) :
    Agree S calls (fun _ => True) (noteType f e) (noteType g e) := by
  have allowed : Expr.mayUse own typesName := by
    rw [Expr.mayUse, show Scope.isOrdinary typesName = true from rfl, Bool.or_true]
  unfold noteType
  split
  · exact (agree_readName h allowed).bind fun v _ => agree_bindItem v
  · exact agree_pure trivial

/-! ## Loops -/

omit hr in
theorem agree_rounds {round round' : Run (Option Flow)}
    (h : Agree S calls (fun ended => ∀ flow, ended = some flow → S.Flows flow) round round')
    (left : Nat) : Agree S calls S.Flows (rounds round left) (rounds round' left) := by
  induction left with
  | zero => exact agree_pure trivial
  | succ left ih =>
    refine h.bind fun ended hended => ?_
    split
    · exact agree_pure (hended _ rfl)
    · exact ih

omit hr in
theorem flows_afterRound {flow : Flow} (h : S.Flows flow) :
    ∀ ended, afterRound flow = some ended → S.Flows ended := by
  intro ended found
  cases flow <;> cases found
  · trivial
  · exact h

omit hr in
theorem agree_overValues {body body' : Value → Run Flow} {last last' : Run Flow}
    (h : ∀ v, S.Modest v → Agree S calls S.Flows (body v) (body' v))
    (hlast : Agree S calls S.Flows last last') {vs : List Value} (hvs : ∀ v ∈ vs, S.Modest v) :
    Agree S calls S.Flows (overValues body last vs) (overValues body' last' vs) := by
  induction vs with
  | nil => exact hlast
  | cons v rest ih =>
    obtain ⟨hv, hrest⟩ := List.forall_mem_cons.1 hvs
    refine (h v hv).bind fun ended hended => ?_
    split
    · next found => exact agree_pure (flows_afterRound hended _ found)
    · exact ih hrest

theorem agree_decorate {v : Value} (hv : S.Modest v) {decorators : List Value}
    (modest : ∀ d ∈ decorators, S.Modest d) :
    Agree S calls S.Modest (decorate r v decorators) (decorate r v decorators) := by
  induction decorators with
  | nil => exact agree_pure hv
  | cons d rest ih =>
    obtain ⟨hd, hrest⟩ := List.forall_mem_cons.1 modest
    refine (ih hrest).bind fun inner hinner =>
      hr calls d [inner] [] hd (fun x hx => ?_) fun _ hn => absurd hn List.not_mem_nil
    rw [List.mem_singleton.1 hx]
    exact hinner

/-! ## Statements that carry out no others -/

theorem agree_annotate (h : f.Twins S calls own g) {target type : Expr} {e : Option Expr}
    (modest : Statement.isModest S.quiet own (.annotate target type e)) :
    Agree S calls S.Flows (execute r f (.annotate target type e))
      (execute r g (.annotate target type e)) := by
  obtain ⟨hrest, he⟩ := Bool.and_eq_true_iff.1 modest
  obtain ⟨htarget, htype⟩ := Bool.and_eq_true_iff.1 hrest
  have noted : Agree S calls S.Flows
      (do
        if f.locals.isNone then
          let _ ← evaluate r f type
          noteType f target
        return Flow.next)
      (do
        if g.locals.isNone then
          let _ ← evaluate r g type
          noteType g target
        return Flow.next) := by
    rw [h.isNone_locals.1, h.isNone_locals.2]
    dsimp only
    split
    · next outer =>
      rw [Option.isNone_iff_eq_none.1 outer] at htype
      exact (agree_evaluate hr h (by rwa [Option.isNone_iff_eq_none.1 outer])).bind fun _ _ =>
        (agree_noteType h target).bind fun _ _ => agree_pure trivial
    · exact agree_pure trivial
  cases e with
  | none => exact noted
  | some e =>
    exact (agree_evaluate hr (e := e) h he).bind fun v hv =>
      (agree_bindTarget hr h htarget hv).bind fun _ _ => noted

theorem agree_raising (h : f.Twins S calls own g) {e : Option Expr}
    (modest : Statement.isModest S.quiet own (.raising e)) :
    Agree S calls S.Flows (execute r f (.raising e)) (execute r g (.raising e)) := by
  cases e with
  | none =>
    unfold execute
    rw [← h.handled]
    split
    · exact agree_throw _
    · exact agree_throw _
  | some e => exact (agree_evaluate hr (e := e) h modest).bind fun v _ => agree_raiseValue v

theorem agree_require (h : f.Twins S calls own g) {c : Expr} {text : Option Expr}
    (modest : Statement.isModest S.quiet own (.require c text)) :
    Agree S calls S.Flows (execute r f (.require c text)) (execute r g (.require c text)) := by
  obtain ⟨hc, htext⟩ := Bool.and_eq_true_iff.1 modest
  refine (agree_evaluate hr h hc).bind fun v _ => ?_
  split
  · exact agree_pure trivial
  · cases text with
    | none => exact agree_throw _
    | some e => exact (agree_evaluate hr (e := e) h htext).bind fun _ _ => agree_throw _

/-- The body of a function is carried out when the function is called. -/
theorem agree_define (h : f.Twins S calls own g) {head : FunctionHead} {body : List Statement}
    (modest : Statement.isModest S.quiet own (.define head body)) :
    Agree S calls S.Flows (execute r f (.define head body))
      (execute r g (.define head body)) := by
  obtain ⟨hrest, hbody⟩ := Bool.and_eq_true_iff.1 modest
  obtain ⟨hrest, hname⟩ := Bool.and_eq_true_iff.1 hrest
  obtain ⟨hrest, htypes⟩ := Bool.and_eq_true_iff.1 hrest
  obtain ⟨hdecorators, hdefaults⟩ := Bool.and_eq_true_iff.1 hrest
  refine (agree_evaluateItems hr h hdecorators).bind fun ds hds =>
    (agree_evaluateDefaults hr h hdefaults).bind fun given hgiven =>
      (agree_evaluateItems hr h htypes).bind fun _ _ =>
        (agree_makeFunction h _ ?_).bind fun v hv => (agree_decorate hr hv hds).bind
          fun v hv => (agree_bindName h hname hv).bind fun _ _ => agree_pure trivial
  rw [Code.isModest, Bool.and_eq_true, List.all_eq_true]
  exact ⟨hgiven, hbody⟩

/-- A modest value is no module whose names could be asked for. -/
theorem agree_emitNames (h : f.Twins S calls own g) {e : Expr}
    (modest : Statement.isModest S.quiet own (.emitNames e)) :
    Agree S calls S.Flows (execute r f (.emitNames e)) (execute r g (.emitNames e)) := by
  refine (agree_evaluate hr (e := e) h modest).bind fun v hv => ?_
  have refused : Agree S calls (fun _ => False) (namesOf v) (namesOf v) := by
    unfold namesOf
    split
    · cases hv
    · exact agree_throw _
  exact refused.bind fun _ none => none.elim

omit hr in
/-- A key of the globals that is the text of an ordinary name. -/
theorem agree_globalKey (h : f.Twins S calls own g) {key : Value}
    (modest : Statement.isOrdinaryKey key) :
    Agree S calls S.Flows (execute r f (.globalKey key)) (execute r g (.globalKey key)) := by
  have globals : (S.home, S.home) ∈ S.pairs calls := List.mem_append_right _ List.mem_cons_self
  unfold Statement.isOrdinaryKey at modest
  split at modest
  · next name =>
    have covered : S.covers S.home name := by rw [Setting.covers, modest, Bool.or_true]
    unfold execute
    rw [h.left, h.right]
    refine (agree_ofExcept (Q := fun key => key = .name name) (.ok rfl)).bind fun key same => ?_
    subst same
    refine (agree_change fun w v twins => twins.update globals fun a b agree =>
      agree.noteKey _ _).bind fun _ _ => ?_
    exact (agree_change fun w v twins => twins.update globals fun a b agree =>
      agree.set (.inl covered) (v := .int 1) rfl).bind fun _ _ => agree_pure trivial
  · cases modest

omit hr in
theorem agree_log (loud : S.quiet = false) (level text : String) :
    Agree S calls S.Flows (execute r f (.log level text)) (execute r g (.log level text)) := by
  have logged (severity : Severity) : Agree S calls (fun _ => True) (log severity text)
      (log severity text) := by
    intro w v twins
    have after : Twins S calls { w with files := logged w severity text }
        { v with files := Run.logged v severity text } := by
      refine ⟨twins.left, twins.right, twins.spaces, ?_, twins.clocks, fun quiet => ?_⟩
      · unfold Run.logged
        rw [← twins.handler, twins.clocks.1, twins.clocks.2]
        split
        · exact twins.files
        · split
          · exact twins.files
          · exact twins.files.record _ _ _
      · rw [loud] at quiet
        cases quiet
    refine ⟨?_, fun _ _ => trivial, ?_, fun quiet => ?_⟩
    · rw [exec_log, exec_log]
    · rw [exec_log, exec_log]
      exact after
    · rw [loud] at quiet
      cases quiet
  unfold execute
  split
  · exact (logged _).bind fun _ _ => agree_pure trivial
  · exact (agree_throw _).bind (Q := fun _ => True) fun _ _ => agree_pure trivial

omit hr in
theorem agree_writeFile (loud : S.quiet = false) (path text : String) :
    Agree S calls (fun _ => True) (writeFile path text) (writeFile path text) := by
  intro w v twins
  have loud' : ¬S.quiet := by rw [loud]; exact Bool.false_ne_true
  rcases twins.files.write (Path.ofText path) (Octets.ofText text) with
    ⟨fault, hw, hv⟩ | ⟨files, files', hw, hv, alike⟩
  · have left := exec_writeFile path text w
    have right := exec_writeFile path text v
    rw [hw] at left
    rw [hv] at right
    exact ⟨by rw [left, right], fun _ _ => trivial, by rw [left, right]; exact twins,
      fun quiet => absurd quiet loud'⟩
  · have left := exec_writeFile path text w
    have right := exec_writeFile path text v
    rw [hw] at left
    rw [hv] at right
    refine ⟨by rw [left, right], fun _ _ => trivial, ?_, fun quiet => absurd quiet loud'⟩
    rw [left, right]
    exact ⟨twins.left, twins.right, twins.spaces, alike, twins.clocks,
      fun quiet => absurd quiet loud'⟩

/-! ## Statements -/

mutual

theorem agree_execute {calls : List (Home × Home)} {own : Option (List String)} {f g : Frame}
    (h : f.Twins S calls own g) {s : Statement}
    (modest : s.isModest S.quiet own) :
    Agree S calls S.Flows (execute r f s) (execute r g s) := by
  cases s with
  | evaluate e => exact (agree_evaluate hr (e := e) h modest).bind fun _ _ => agree_pure trivial
  | bind targets e =>
    obtain ⟨htargets, he⟩ := Bool.and_eq_true_iff.1 modest
    exact (agree_evaluate hr h he).bind fun v hv => (agree_bindAll hr h hv htargets).bind
      fun _ _ => agree_pure trivial
  | update target op e =>
    obtain ⟨htarget, he⟩ := Bool.and_eq_true_iff.1 modest
    exact (agree_evaluate hr h htarget).bind fun old hold => (agree_evaluate hr h he).bind
      fun v hv => (agree_ofExcept (S.isKind.binary true op hold hv)).bind fun new hnew =>
        (agree_bindTarget hr h htarget hnew).bind fun _ _ => agree_pure trivial
  | annotate _ _ _ => exact agree_annotate hr h modest
  | delete targets =>
    exact (agree_deleteTargets hr h modest).bind fun _ _ => agree_pure trivial
  | raising _ => exact agree_raising hr h modest
  | require _ _ => exact agree_require hr h modest
  | importModule _ | importFrom _ _ _ | emitGlobals => cases modest
  | declare _ _ | idle | leave | proceed | handler _ _ _ | breakTraceback =>
    exact agree_pure trivial
  | returning e =>
    cases e with
    | none => exact agree_pure rfl
    | some e => exact (agree_evaluate hr (e := e) h modest).bind fun v hv => agree_pure hv
  | branch c body other =>
    obtain ⟨hrest, hother⟩ := Bool.and_eq_true_iff.1 modest
    obtain ⟨hc, hbody⟩ := Bool.and_eq_true_iff.1 hrest
    refine (agree_evaluate hr h hc).bind fun v _ => ?_
    split
    · exact agree_executeAll h hbody
    · exact agree_executeAll h hother
  | loop c body other =>
    obtain ⟨hrest, hother⟩ := Bool.and_eq_true_iff.1 modest
    obtain ⟨hc, hbody⟩ := Bool.and_eq_true_iff.1 hrest
    refine agree_rounds ((agree_evaluate hr h hc).bind fun v _ => ?_) _
    split
    · exact (agree_executeAll h hbody).bind fun flow hflow => agree_pure (flows_afterRound hflow)
    · refine (agree_executeAll h hother).bind fun flow hflow => agree_pure fun ended found => ?_
      cases found
      exact hflow
  | each _ target source body other =>
    obtain ⟨hrest, hother⟩ := Bool.and_eq_true_iff.1 modest
    obtain ⟨hrest, hbody⟩ := Bool.and_eq_true_iff.1 hrest
    obtain ⟨htarget, hsource⟩ := Bool.and_eq_true_iff.1 hrest
    exact (agree_evaluate hr h hsource).bind fun v hv =>
      (agree_ofExcept (S.isKind.items hv)).bind fun vs hvs =>
        agree_overValues
          (fun v hv => (agree_bindTarget hr h htarget hv).bind fun _ _ =>
            agree_executeAll h hbody)
          (agree_executeAll h hother) hvs
  | attempt body handlers other last =>
    obtain ⟨hrest, hlast⟩ := Bool.and_eq_true_iff.1 modest
    obtain ⟨hrest, hother⟩ := Bool.and_eq_true_iff.1 hrest
    obtain ⟨hbody, hhandlers⟩ := Bool.and_eq_true_iff.1 hrest
    refine (agree_outcome (Q := S.Flows) ((agree_outcome (agree_executeAll h hbody)).bind
      fun x hx => ?_)).bind fun result hresult => (agree_executeAll h hlast).bind
        fun flow hflow => ?_
    · split
      · exact agree_executeAll h hother
      · exact agree_pure (hx _ rfl)
      · exact agree_handle h _ hhandlers
    · split
      · exact agree_ofExcept hresult
      · exact agree_pure hflow
  | within _ contexts _ =>
    cases contexts with
    | nil => exact agree_pure trivial
    | cons c _ =>
      exact (agree_evaluate hr h (Bool.and_eq_true_iff.1 modest).1).bind fun _ _ => agree_throw _
  | define _ _ => exact agree_define hr h modest
  | defineClass name bases decorators body =>
    obtain ⟨hrest, hbody⟩ := Bool.and_eq_true_iff.1 modest
    obtain ⟨hrest, hname⟩ := Bool.and_eq_true_iff.1 hrest
    obtain ⟨hbases, hdecorators⟩ := Bool.and_eq_true_iff.1 hrest
    refine (agree_evaluateItems hr h hdecorators).bind fun ds hds =>
      (agree_evaluateArguments hr h hbases).bind fun _ _ => agree_calling (Q := S.Flows)
        (.ofList [] fun _ hd => absurd hd List.not_mem_nil) (fun p apart => ?_)
        fun result hresult =>
          (agree_ofExcept hresult).bind fun _ _ => (agree_decorate hr rfl hds).bind fun v hv =>
            (agree_bindName h hname hv).bind fun _ _ => agree_pure trivial
    rw [h.left, h.right, ← h.handled]
    exact agree_executeAll (.ofCall _ apart) hbody
  | defineAs name behaviour =>
    obtain ⟨hname, hbehaviour⟩ := Bool.and_eq_true_iff.1 modest
    unfold execute
    rw [h.left, h.right]
    refine (agree_bindName h hname ?_).bind fun _ _ => agree_pure trivial
    exact Bool.and_eq_true_iff.2 ⟨beq_self_eq_true S.home, hbehaviour⟩
  | emit e =>
    obtain ⟨loud, he⟩ := Bool.and_eq_true_iff.1 modest
    have loud : S.quiet = false := by simpa using loud
    exact (agree_evaluate hr h he).bind fun v _ =>
      (agree_change fun _ _ twins => twins.emit loud v).bind fun _ _ => agree_pure trivial
  | emitNames _ => exact agree_emitNames hr h modest
  | globalKey key => exact agree_globalKey h modest
  | log level text =>
    have loud : S.quiet = false := by simpa [Statement.isModest] using modest
    exact agree_log loud level text
  | writeFile path text =>
    have loud : S.quiet = false := by simpa [Statement.isModest] using modest
    exact (agree_writeFile loud path text).bind fun _ _ => agree_pure trivial

theorem agree_executeAll {calls : List (Home × Home)} {own : Option (List String)} {f g : Frame}
    (h : f.Twins S calls own g) {body : List Statement}
    (modest : Statement.areModest S.quiet own body) :
    Agree S calls S.Flows (executeAll r f body) (executeAll r g body) := by
  cases body with
  | nil => exact agree_pure trivial
  | cons s rest =>
    obtain ⟨hs, hrest⟩ := Bool.and_eq_true_iff.1 modest
    refine (agree_execute h hs).bind fun flow hflow => ?_
    split
    · exact agree_executeAll h hrest
    · exact agree_pure hflow

theorem agree_handle {calls : List (Home × Home)} {own : Option (List String)} {f g : Frame}
    (h : f.Twins S calls own g) (e : Raised) {handlers : List Statement}
    (modest : Statement.areModest S.quiet own handlers) :
    Agree S calls S.Flows (handle r f e handlers) (handle r g e handlers) := by
  cases handlers with
  | nil => exact agree_throw e
  | cons s rest =>
    obtain ⟨hs, hrest⟩ := Bool.and_eq_true_iff.1 modest
    cases s with
    | handler type name body =>
      obtain ⟨hrest', hbody⟩ := Bool.and_eq_true_iff.1 hs
      obtain ⟨htype, hname⟩ := Bool.and_eq_true_iff.1 hrest'
      have goesOn (found : Bool) : Agree S calls S.Flows
          (do
            if found then
              if let some n := name then bindName f n (.exception e)
              let result ← outcome (executeAll r { f with handled := some e } body)
              if let some n := name then change (·.unbind (f.homeOf n) n)
              ofExcept result
            else handle r f e rest)
          (do
            if found then
              if let some n := name then bindName g n (.exception e)
              let result ← outcome (executeAll r { g with handled := some e } body)
              if let some n := name then change (·.unbind (g.homeOf n) n)
              ofExcept result
            else handle r g e rest) := by
        cases found with
        | false => exact agree_handle h e hrest
        | true =>
          have ran := agree_outcome (agree_executeAll (h.handling e) hbody)
          cases name with
          | none => exact ran.bind fun _ hresult => agree_ofExcept hresult
          | some n =>
            exact (agree_bindName h hname rfl).bind fun _ _ => ran.bind fun _ hresult =>
              (agree_unbind h hname).bind fun _ _ => agree_ofExcept hresult
      cases type with
      | none => exact goesOn true
      | some t =>
        exact (agree_evaluate hr (e := t) h htype).bind fun _ _ =>
          (agree_ofExcept (Q := fun _ => True) fun _ _ => trivial).bind fun found _ =>
            goesOn found
    | _ =>
      show Agree S calls S.Flows (handle r f e rest) (handle r g e rest)
      exact agree_handle h e hrest

end

/-! ## Programs and calls -/

theorem agree_executeProgram {program : List Statement}
    (modest : Statement.areModest S.quiet none program) :
    Agree S calls (fun _ => True) (executeProgram r S.home program)
      (executeProgram r S.home program) := by
  have globals : (S.home, S.home) ∈ S.pairs calls := List.mem_append_right _ List.mem_cons_self
  have carriedOut : Agree S calls (fun _ => True)
      (do let _ ← executeAll r (.ofHome S.home) program)
      (do let _ ← executeAll r (.ofHome S.home) program) :=
    (agree_executeAll hr .ofHome modest).bind fun _ _ => agree_pure trivial
  have prepared : Agree S calls (fun _ => True) (prepareTypes (.ofHome S.home))
      (prepareTypes (.ofHome S.home)) := by
    have ordinary : Expr.mayUse none typesName := rfl
    refine agree_engine_bind fun w v twins => ?_
    show AgreeAt S calls _
      (if (w.engine.global? S.home typesName).isNone then _ else _)
      (if (v.engine.global? S.home typesName).isNone then _ else _) w v
    have covered : S.covers S.home typesName := by
      rw [Setting.covers, show Scope.isOrdinary typesName = true from rfl, Bool.or_true]
    rw [← (twins.global? globals covered).1]
    split
    · exact agree_bindName (x := .object "dict") .ofHome ordinary rfl w v twins
    · exact agree_pure trivial w v twins
  unfold executeProgram
  dsimp only
  cases found : Statement.summary? program with
  | none =>
    dsimp only
    split
    · exact prepared.bind fun _ _ => carriedOut
    · exact carriedOut
  | some c =>
    have bound : Agree S calls (fun _ => True) (bindName (.ofHome S.home) summaryName c.value)
        (bindName (.ofHome S.home) summaryName c.value) :=
      agree_change fun _ _ twins => twins.update globals fun _ _ agree =>
        agree.set (.inr (by decide)) (S.isKind.inert c.inert)
    have summarized := bound.bind fun _ _ => carriedOut
    dsimp only
    split
    · exact prepared.bind fun _ _ => summarized
    · exact summarized

theorem agree_runCode (name : String) {code : Code} (modest : code.isModest S.home S.quiet)
    {args : List Value} (hargs : ∀ v ∈ args, S.Modest v) {named : List (String × Value)}
    (hnamed : ∀ d ∈ named, S.Modest d.2) :
    Agree S calls S.Modest (runCode r name S.home code args named)
      (runCode r name S.home code args named) := by
  obtain ⟨hdefaults, hbody⟩ := Bool.and_eq_true_iff.1 modest
  refine (agree_ofExcept (S.isKind.bindArguments name (List.all_eq_true.1 hdefaults) hargs
    hnamed)).bind fun bound hbound => ?_
  split
  · exact agree_pure rfl
  · refine agree_calling (Q := S.Flows) (.ofList bound hbound)
      (fun p apart => agree_executeAll hr (.ofCall _ apart) hbody) fun result hresult => ?_
    refine (agree_ofExcept hresult).bind fun flow hflow => ?_
    split
    · exact agree_pure hflow
    · exact agree_pure rfl

theorem agree_callWith {v : Value} (hv : S.Modest v) {args : List Value}
    (hargs : ∀ v ∈ args, S.Modest v) {named : List (String × Value)}
    (hnamed : ∀ d ∈ named, S.Modest d.2) :
    Agree S calls S.Modest (callWith r v args named) (callWith r v args named) := by
  unfold callWith
  split
  · next name behaviour home =>
    obtain ⟨same, hbehaviour⟩ := Bool.and_eq_true_iff.1 hv
    obtain rfl : home = S.home := eq_of_beq same
    split
    · next index =>
      refine agree_engine_bind fun w v twins => ?_
      obtain ⟨same, coded⟩ := twins.code? index
      rw [← same]
      split
      · next code found => exact agree_runCode hr name (coded code found) hargs hnamed w v twins
      · exact agree_pure (Q := S.Modest) rfl w v twins
    · split
      · exact agree_ofExcept (.error _)
      · exact agree_behave hr name hbehaviour hargs
  · exact agree_ofExcept (S.isKind.callType _ hargs)
  · exact agree_ofExcept (S.isKind.callBuiltin _ hargs)
  · exact agree_throw _

omit hr in
/-- However deep they may nest, calls of modest values agree. -/
theorem agrees_reach (S : Setting) (levels : Nat) : (reach levels).Agrees S := by
  induction levels with
  | zero => exact fun _ _ _ _ _ _ _ => agree_throw _
  | succ levels ih =>
    exact fun _ _ _ _ hv hargs hnamed => agree_callWith ih hv hargs hnamed

end Run

end EmbeddedPython
