import EmbeddedPython.Engine.Execute

/-!
# Kinds of values

A kind of values is one that is told by the functions and modules in a value: it has
all values with neither, and it has a row or an instance just if it has what is in it
(`Value.IsKind`).  What the operations of the interpreter make of values of a kind is
of that kind again.
-/

namespace EmbeddedPython

/-! ## Values that belong to no namespace -/

theorem Value.areInert_iff {vs : List Value} : areInert vs ↔ ∀ v ∈ vs, v.isInert := by
  induction vs with
  | nil => simp [areInert]
  | cons v rest ih => simp [areInert, ih]

theorem Value.isInert_of_lookup {κ : Type} [BEq κ] [LawfulBEq κ] {row : List (κ × Value)}
    (inert : areInert (row.map Prod.snd)) {key : κ} {v : Value}
    (found : row.lookup key = some v) : v.isInert :=
  areInert_iff.1 inert v (List.mem_map_of_mem (Lookup.mem_of_lookup found))

namespace Run

theorem isInert_ownAttribute? {v a : Value} {field : String}
    (found : ownAttribute? v field = some a) : a.isInert := by
  unfold ownAttribute? at found
  split at found
  · exact Value.isInert_of_lookup rfl found
  · exact Value.isInert_of_lookup rfl found
  · exact Value.isInert_of_lookup rfl found
  · split at found
    · cases found
      rfl
    · cases found

theorem isInert_moduleAttribute? {field : String} {v : Value}
    (found : moduleAttribute? field = some v) : v.isInert :=
  Value.isInert_of_lookup rfl found

end Run

/-! ## Kinds -/

/-- Whether a value is of the kind depends on the functions and modules in it only. -/
structure Value.IsKind (V : Value → Prop) : Prop where
  inert {v : Value} (h : v.isInert) : V v
  list {vs : List Value} : V (.list vs) ↔ ∀ v ∈ vs, V v
  tuple {vs : List Value} : V (.tuple vs) ↔ ∀ v ∈ vs, V v
  derived {typeName : String} {base : Value} : V (.derived typeName base) ↔ V base

/-- The answer has a property, if there is one. -/
def Gives {ε α : Type} (P : α → Prop) (x : Except ε α) : Prop := ∀ a, x = .ok a → P a

namespace Gives

variable {ε α β : Type} {P : α → Prop} {Q : β → Prop}

theorem ok {a : α} (h : P a) : Gives P (.ok a : Except ε α) := by
  intro b same
  obtain rfl := Except.ok.inj same
  exact h

theorem error (e : ε) : Gives P (.error e : Except ε α) := fun _ h => nomatch h

theorem bind {x : Except ε α} {k : α → Except ε β} (first : Gives P x)
    (second : ∀ a, P a → Gives Q (k a)) : Gives Q (x >>= k) := by
  cases x with
  | ok a => exact second a (first a rfl)
  | error e => exact error e

theorem map {x : Except ε α} {f : α → β} (first : Gives P x) (second : ∀ a, P a → Q (f a)) :
    Gives Q (x.map f) := by
  cases x with
  | ok a => exact ok (second a (first a rfl))
  | error e => exact error e

/-- Nothing is asked of the answer in between. -/
theorem map_any {x : Except ε α} {f : α → β} (h : ∀ a, Q (f a)) : Gives Q (x.map f) :=
  map (P := fun _ => True) (fun _ _ => trivial) fun a _ => h a

end Gives

theorem Operation.mem_of_item? {vs : List Value} {n : Int} {v : Value}
    (found : item? vs n = some v) : v ∈ vs := by
  unfold item? at found
  split at found
  · split at found
    · cases found
    · exact List.mem_of_getElem? found
  · exact List.mem_of_getElem? found

theorem Operation.repeated_mem (vs : List Value) (n : Int) :
    Gives (fun more => ∀ v ∈ more, v ∈ vs) (repeated vs n) := by
  unfold repeated
  split
  · exact .error _
  · refine .ok fun v there => ?_
    obtain ⟨row, repeats, inRow⟩ := List.mem_flatten.1 there
    exact List.eq_of_mem_replicate repeats ▸ inRow

namespace Value.IsKind

variable {V : Value → Prop} (hV : IsKind V)

include hV

theorem core {v : Value} (h : V v) : V v.core := by
  induction v using Value.core.induct with
  | case1 name base ih => exact ih (hV.derived.1 h)
  | case2 v other =>
    rw [Value.core.eq_2 v other]
    exact h

/-- The items of a row. -/
theorem row {v : Value} {vs : List Value} (h : V v)
    (isRow : v.core = .list vs ∨ v.core = .tuple vs) : ∀ x ∈ vs, V x := by
  have core := hV.core h
  rcases isRow with same | same
  · exact hV.list.1 (same ▸ core)
  · exact hV.tuple.1 (same ▸ core)

/-! ### Rows -/

theorem items {v : Value} (h : V v) :
    Gives (fun vs => ∀ x ∈ vs, V x) (Operation.items v) := by
  have mapped {α : Type} (f : α → Value) (as : List α) (scalar : ∀ a, V (f a)) :
      ∀ x ∈ as.map f, V x := by
    intro x hx
    obtain ⟨a, -, rfl⟩ := List.mem_map.1 hx
    exact scalar a
  unfold Operation.items
  split
  · next found => exact .ok (hV.row h (.inl found))
  · next found => exact .ok (hV.row h (.inr found))
  · exact .ok (mapped _ _ fun _ => hV.inert rfl)
  · exact .ok (mapped _ _ fun _ => hV.inert rfl)
  · exact .ok (mapped _ _ fun _ => hV.inert rfl)
  · split
    · exact .ok fun x hx => nomatch hx
    · exact .error _
  · exact .error _

theorem subscript {v : Value} (h : V v) (index : Value) :
    Gives V (Operation.subscript v index) := by
  unfold Operation.subscript
  dsimp only
  split
  · next found =>
    split
    · exact .error _
    · split
      · next item => exact .ok (hV.row h (.inl found) _ (Operation.mem_of_item? item))
      · exact .error _
  · next found =>
    split
    · exact .error _
    · split
      · next item => exact .ok (hV.row h (.inr found) _ (Operation.mem_of_item? item))
      · exact .error _
  -- The item of any other value is a text or a number.
  all_goals
    first
    | exact .error _
    | split <;> first | exact .error _ | split <;> first | exact .ok (hV.inert rfl) | exact .error _

theorem repeatedValue? {v : Value} (h : V v) {n : Int}
    {x : Except Raised Value} (found : Operation.repeatedValue? v n = some x) :
    Gives V x := by
  unfold Operation.repeatedValue? at found
  split at found
  all_goals cases found
  · exact .map_any fun _ => hV.inert rfl
  · exact .map_any fun _ => hV.inert rfl
  · exact .map_any fun _ => hV.inert rfl
  · next same =>
    exact (Operation.repeated_mem _ n).map fun _ old =>
      hV.list.2 fun x hx => hV.row h (.inl same) x (old x hx)
  · next same =>
    exact (Operation.repeated_mem _ n).map fun _ old =>
      hV.tuple.2 fun x hx => hV.row h (.inr same) x (old x hx)

theorem joined {inPlace : Bool} {a b : Value} (ha : V a)
    (hb : V b) {x : Except Raised Value} (found : Operation.joined inPlace a b = some x) :
    Gives V x := by
  have both {xs ys : List Value} (hx : ∀ x ∈ xs, V x)
      (hy : ∀ y ∈ ys, V y) : ∀ v ∈ xs ++ ys, V v :=
    fun v hv => (List.mem_append.1 hv).elim (hx v) (hy v)
  unfold Operation.joined at found
  dsimp only at found
  split at found
  · cases found; exact .ok (hV.inert rfl)
  · cases found; exact .ok (hV.inert rfl)
  · cases found; exact .ok (hV.inert rfl)
  · cases found; exact .ok (hV.inert rfl)
  · cases found; exact .error _
  · cases found; exact .error _
  · next one other =>
    cases found
    exact .ok (hV.list.2 (both (hV.row ha (.inl one)) (hV.row hb (.inl other))))
  · next one other =>
    cases found
    split
    · exact .ok (hV.list.2 (both (hV.row ha (.inl one)) (hV.row hb (.inr other))))
    · exact .error _
  · next one other =>
    cases found
    split
    · refine .ok (hV.list.2 (both (hV.row ha (.inl one)) fun x hx => ?_))
      obtain ⟨c, -, rfl⟩ := List.mem_map.1 hx
      exact hV.inert rfl
    · exact .error _
  · cases found
    split <;> exact .error _
  · next one other =>
    cases found
    exact .ok (hV.tuple.2 (both (hV.row ha (.inr one)) (hV.row hb (.inr other))))
  · cases found; exact .error _
  · split at found <;> cases found
    · split <;> exact .ok (hV.inert rfl)
    · exact .error _
  · split at found <;> cases found
    · split <;> exact .ok (hV.inert rfl)
    · exact .error _
  · cases found

/-! ### Numbers -/

theorem integers (op : BinaryOperator) (m n : Int) :
    Gives V (Operation.integers op m n) := by
  unfold Operation.integers
  cases op
  all_goals
    dsimp only
    first
    | exact .ok (hV.inert rfl)
    | split <;> first
        | exact .ok (hV.inert rfl)
        | exact .error _
        | split <;> first | exact .ok (hV.inert rfl) | exact .error _

theorem doubles (op : BinaryOperator) (x y : Double) :
    Gives V (Operation.doubles op x y) := by
  unfold Operation.doubles
  cases op
  all_goals
    dsimp only
    first
    | exact .ok (hV.inert rfl)
    | split <;> first | exact .ok (hV.inert rfl) | exact .error _

/-! ### Operators -/

theorem binary (inPlace : Bool) (op : BinaryOperator) {a b : Value}
    (ha : V a) (hb : V b) :
    Gives V (Operation.binary inPlace op a b) := by
  unfold Operation.binary
  dsimp only
  split
  · split
    · split
      · exact .error _
      · split
        · exact hV.doubles _ _ _
        · exact .error _
    · split
      · exact .error _
      · exact hV.integers op _ _
  · split
    · split
      · split
        · exact .ok (hV.inert rfl)
        · exact .error _
      · split
        · split
          · exact hV.doubles op _ _
          · exact .error _
        · exact .error _
    · split
      · cases found : Operation.joined inPlace a b with
        | none => exact .error _
        | some x => exact hV.joined ha hb found
      · cases found : Operation.repeatedValue? a _ with
        | none => exact .error _
        | some x => exact hV.repeatedValue? ha found
      · cases found : Operation.repeatedValue? b _ with
        | none => exact .error _
        | some x => exact hV.repeatedValue? hb found
      · split
        · exact .error _
        · split <;> exact .error _
      · exact .error _

theorem unary (op : UnaryOperator) (v : Value) :
    Gives V (Operation.unary op v) := by
  unfold Operation.unary
  dsimp only
  split
  · exact .ok (hV.inert rfl)
  · split
    · exact .ok (hV.inert rfl)
    · exact .ok (hV.inert rfl)
    · split
      · exact .ok (hV.inert rfl)
      · exact .error _
  · split
    · exact .ok (hV.inert rfl)
    · exact .ok (hV.inert rfl)
    · split
      · exact .ok (hV.inert rfl)
      · exact .error _
  · split
    · exact .ok (hV.inert rfl)
    · exact .error _

/-! ### Calls of the interpreter's own functions and types -/

theorem collect {vs : List Value} (kind : Collection) (h : ∀ v ∈ vs, V v) :
    Gives V (Run.collect kind vs) := by
  unfold Run.collect
  split
  · exact .ok (hV.tuple.2 h)
  · exact .ok (hV.list.2 h)
  · split
    · exact .error _
    · exact .ok (hV.inert rfl)
  · exact .ok (hV.inert rfl)
  · exact .ok (hV.inert rfl)

theorem valuesFor {v : Value} (targets : List Expr) (h : V v) :
    Gives (fun vs => ∀ x ∈ vs, V x) (Run.valuesFor targets v) := by
  have unpacked (front : Nat) (behind : Option Nat) :
      Gives (fun vs => ∀ x ∈ vs, V x) (Run.unpack front behind v) := by
    have row := hV.items h
    unfold Run.unpack
    split
    · exact .error _
    · next vs found =>
      have known := row vs found
      split
      · split
        · exact .error _
        · split
          · exact .error _
          · exact .ok known
      · split
        · exact .error _
        · refine .ok fun x hx => ?_
          simp only [List.mem_append, List.mem_singleton] at hx
          rcases hx with (hx | rfl) | hx
          · exact known x (List.mem_of_mem_take hx)
          · exact hV.list.2 fun y hy =>
              known y (List.mem_of_mem_drop (List.mem_of_mem_take hy))
          · exact known x (List.mem_of_mem_drop (List.mem_of_mem_drop hx))
  unfold Run.valuesFor
  split
  · exact unpacked _ _
  · exact unpacked _ _

theorem lengthOf (v : Value) : Gives V (Run.lengthOf v) := by
  unfold Run.lengthOf
  split
  · exact .ok (hV.inert rfl)
  · exact .ok (hV.inert rfl)
  · split
    · exact .ok (hV.inert rfl)
    · exact .error _
  · split
    · exact .ok (hV.inert rfl)
    · exact .error _

theorem sum {vs : List Value} (h : ∀ v ∈ vs, V v) {start : Value}
    (hstart : V start) :
    Gives V
      (vs.foldlM (fun sum v => Operation.binary false .add sum v) start) := by
  induction vs generalizing start with
  | nil => exact .ok hstart
  | cons v rest ih =>
    obtain ⟨first, others⟩ := List.forall_mem_cons.1 h
    rw [List.foldlM_cons]
    exact (hV.binary false .add hstart first).bind fun _ => ih others

theorem single (name : String) {v : Value} (h : V v) :
    Gives V (Run.single name v) := by
  unfold Run.single
  split
  · exact hV.lengthOf v
  split
  · exact .ok (hV.inert rfl)
  split
  · exact .ok (hV.inert rfl)
  split
  · split
    · exact .ok (hV.inert rfl)
    · exact .ok (hV.inert rfl)
    · exact .error _
  split
  · exact (hV.items h).map fun _ _ => hV.inert rfl
  split
  · exact (hV.items h).map fun _ _ => hV.inert rfl
  split
  · exact (hV.items h).bind fun _ hvs => hV.sum hvs (hV.inert rfl)
  · exact .ok (hV.inert rfl)

theorem callBuiltin (name : String) {args : List Value}
    (h : ∀ v ∈ args, V v) :
    Gives V (Run.callBuiltin name args) := by
  unfold Run.callBuiltin
  split
  · exact .ok (hV.inert rfl)
  · exact .ok (hV.inert rfl)
  · exact .ok (hV.inert rfl)
  · exact .ok (hV.inert rfl)
  · exact hV.single _ (h _ List.mem_cons_self)
  · split
    · exact .error _
    · exact .ok (hV.inert rfl)

theorem callType (kind : String) {args : List Value}
    (h : ∀ v ∈ args, V v) :
    Gives V (Run.callType kind args) := by
  have converted (v : Value) (hv : V v) :
      Gives V (Run.convertTo kind (some v)) := by
    unfold Run.convertTo
    split
    · exact .ok (hV.inert rfl)
    · exact .ok (hV.inert rfl)
    · exact .ok (hV.inert rfl)
    · next same => cases same; exact (hV.items hv).map fun _ => hV.list.2
    · exact .ok (hV.inert rfl)
    · next same => cases same; exact (hV.items hv).map fun _ => hV.tuple.2
    · exact .ok (hV.inert rfl)
    · split <;> exact .ok (hV.inert rfl)
    · split <;> exact .ok (hV.inert rfl)
    · exact .ok (hV.inert rfl)
    · exact .ok (hV.inert rfl)
    · exact .ok (hV.inert rfl)
    · exact .ok (hV.inert rfl)
  unfold Run.callType
  split
  · exact .map_any fun _ => hV.inert rfl
  split
  · cases args with
    | nil =>
      unfold List.head? Run.convertTo
      split <;> first | exact .ok (hV.inert rfl) | contradiction
    | cons v rest => exact converted v (h v List.mem_cons_self)
  split
  · exact .ok (hV.inert rfl)
  · exact .error _

theorem bindArguments (name : String) {code : Code} {args : List Value}
    {named : List (String × Value)} (defaults : ∀ d ∈ code.defaults, V d.2)
    (hargs : ∀ v ∈ args, V v) (hnamed : ∀ d ∈ named, V d.2) :
    Gives (fun bound => ∀ d ∈ bound, V d.2)
      (Run.bindArguments name code args named) := by
  have checked {α β : Type} {P : β → Prop} {x : Except Raised α} {k : α → Except Raised β}
      (h : ∀ a, Gives P (k a)) : Gives P (x >>= k) :=
    Gives.bind (P := fun _ => True) (fun _ _ => trivial) fun a _ => h a
  have bound : ∀ d ∈ code.signature.positional.zip args ++ named.filter (fun d =>
          (code.signature.positional ++ code.signature.further).contains d.1)
        ++ code.defaults.filter (fun d => ((code.signature.positional.zip args ++
          named.filter fun d => (code.signature.positional ++ code.signature.further).contains
            d.1).lookup d.1).isNone)
        ++ code.signature.rest.toList.map (fun n =>
          (n, Value.tuple (args.drop code.signature.positional.length)))
        ++ code.signature.others.toList.map fun n => (n, Value.object "dict"),
      V d.2 := by
    intro d hd
    simp only [List.mem_append, List.mem_filter, List.mem_map] at hd
    rcases hd with (((hd | hd) | hd) | ⟨n, -, rfl⟩) | ⟨n, -, rfl⟩
    · exact hargs _ (List.of_mem_zip hd).2
    · exact hnamed d hd.1
    · exact defaults d hd.1
    · exact hV.tuple.2 fun v hv => hargs v (List.mem_of_mem_drop hv)
    · exact hV.inert rfl
  unfold Run.bindArguments
  refine checked fun _ => ?_
  dsimp only
  split
  · refine checked fun _ => ?_
    split
    · refine checked fun _ => ?_
      split
      · exact checked fun _ => .ok bound
      · exact .ok bound
    · split
      · exact checked fun _ => .ok bound
      · exact .ok bound
  · split
    · refine checked fun _ => ?_
      split
      · exact checked fun _ => .ok bound
      · exact .ok bound
    · split
      · exact checked fun _ => .ok bound
      · exact .ok bound

end Value.IsKind

end EmbeddedPython
