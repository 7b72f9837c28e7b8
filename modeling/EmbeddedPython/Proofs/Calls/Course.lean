import EmbeddedPython.Proofs.Calls.Sessions
import EmbeddedPython.Proofs.Engine.Course

/-!
# The course of work with a session

`Work.Stays` is to `Work.exec` what `Run.Stays` is to `Run.exec`.  The work of a
scope comes in four parts, and for each of them there is what it comes to and when
it stays: the scope is made and given up (`within`), a program runs in it (`run`),
its names are copied (`importScope`), and a function of the copy is called (`call`).

A call of a function of a source puts them together.  Its function is called from
another scope (`Scope.callOf`), to which the names are lent as a module
(`Scope.Lends`), and from there it is called like any other (`Scope.callCopy`).
-/

namespace EmbeddedPython

namespace Work

variable {α β : Type} {I : Session → Prop}

/-- All sessions from the first to the last one have a property. -/
def Stays (I : Session → Prop) (w : Work α) (s : Session) : Prop := w.run.Stays I s

theorem Stays.first {w : Work α} {s : Session} (h : w.Stays I s) : I s := Steps.Stays.first h

theorem Stays.last {w : Work α} {s : Session} (h : w.Stays I s) : I (w.exec s).2 :=
  Steps.Stays.last h

@[simp]
theorem stays_ofExcept (r : Except HostError α) (s : Session) :
    (ofExcept r).Stays I s ↔ I s := by
  cases r <;> exact Iff.rfl

theorem stays_bind (w : Work α) (k : α → Work β) (s : Session) :
    (w >>= k).Stays I s ↔
      w.Stays I s ∧ ∀ a, (w.exec s).1 = .ok a → (k a).Stays I (w.exec s).2 := by
  show (w.run >>= _).Stays I s ↔ _
  rw [Steps.stays_bind]
  refine and_congr_right fun first => ?_
  unfold exec at *
  have last : I (w.run.run s).2 := Steps.Stays.last first
  cases (w.run.run s).1 with
  | ok a =>
    refine ⟨fun h b same => ?_, fun h => h a rfl⟩
    obtain rfl := Except.ok.inj same
    exact h
  | error e => exact ⟨fun _ _ same => (nomatch same), fun _ => last⟩

theorem stays_bind_ok {w : Work α} {k : α → Work β} {s s' : Session} {a : α}
    (h : w.exec s = (.ok a, s')) : (w >>= k).Stays I s ↔ w.Stays I s ∧ (k a).Stays I s' := by
  rw [stays_bind, h]
  exact and_congr_right fun _ =>
    ⟨fun rest => rest a rfl, fun rest b same => Except.ok.inj same ▸ rest⟩

end Work

namespace Run

/-- What a name is in a module that has no function for the names that it lacks. -/
def attributeIn (e : Engine) (home : Home) (field : String) : Except Raised Value :=
  match (e.global? home field).or (moduleAttribute? field) with
  | some v => .ok v
  | none => .error (missingOfModule e home field)

variable {home : Home} {w : Workspace} (lacks : w.engine.global? home "__getattr__" = none)

include lacks

end Run

namespace Scope

open Work

variable {I : Session → Prop} {α : Type} {scope : Scope} {s : Session}

/-- The session with a namespace for a scope. -/
def opened (s : Session) (name : String) : Session :=
  { s with engine := s.engine.allocate (initialNames name) }

/-- The session without a namespace. -/
def closed (s : Session) (home : Home) : Session :=
  { s with engine := s.engine.release home }

/-- The module that a scope is to another one, with the names that cross over. -/
def copyOf (ns : Namespace) (localName : String) (names : List (Key × Value)) : Namespace where
  entries := moduleNames localName ++ names
  keyTypes := ns.keyTypes.filter fun k => !isReserved k.1
  codes := []

/-- The session with a copy of the names of another scope, before it is bound. -/
def copied (s : Session) (other : Scope) (localName : String) (names : List (Key × Value)) :
    Session :=
  let ns := (s.engine.space? other.home).getD .empty
  { s with engine := s.engine.allocate (copyOf ns localName names) }

/-- The session with the copy bound as a module. -/
def imported (scope : Scope) (s : Session) (other : Scope) (localName : String)
    (names : List (Key × Value)) : Session :=
  { copied s other localName names with
    engine := (copied s other localName names).engine.bindName scope.home localName
      (.module s.engine.fresh) }

section Import

variable {other : Scope} {localName : String} {names : List (Key × Value)}
  (crosses : crossing ((s.engine.space? other.home).getD .empty).entries = .ok names)

include crosses

end Import

section Call

variable {localName function : String} {args : List Value} {module : Value}
  (bound : s.engine.global? scope.home localName = some module)

include bound

end Call

/-! ## Copies -/

/-- If all keys of a scope are texts, the names that are not reserved cross over. -/
theorem crossing_of_texts {entries : List (Key × Value)}
    (texts : ∀ entry ∈ entries, ∃ name, entry.1 = .name name) :
    ∃ copied, crossing entries = .ok copied ∧ ∀ name, copied.lookup (.name name) =
      if isReserved name then none else entries.lookup (.name name) := by
  induction entries with
  | nil => exact ⟨[], rfl, fun name => by split <;> rfl⟩
  | cons entry rest ih =>
    obtain ⟨key, v⟩ := entry
    obtain ⟨⟨other, same⟩, others⟩ := List.forall_mem_cons.1 texts
    obtain rfl : key = .name other := same
    obtain ⟨more, crossed, lookup⟩ := ih others
    refine ⟨if isReserved other then more else (.name other, v) :: more, ?_, fun name => ?_⟩
    · rw [crossing, crossed]
      rfl
    · rw [List.lookup_cons]
      by_cases same : name = other
      · rw [same]
        split
        · next reserved => rw [lookup, if_pos reserved]
        · exact List.lookup_cons_self.trans (by rw [beq_self_eq_true])
      · have apart : (Key.name name == Key.name other) = false :=
          beq_eq_false_iff_ne.2 fun keys => same (Key.name.inj keys)
        rw [apart]
        split
        · exact lookup name
        · rw [List.lookup_cons, apart]
          exact lookup name

/-- In a copy, the reserved names are those of a module without a program, and all
others are as they were. -/
theorem get?_copyOf {ns : Namespace} {names : List (Key × Value)} (localName name : String)
    (lookup : names.lookup (.name name) =
      if isReserved name then none else ns.entries.lookup (.name name)) :
    (copyOf ns localName names).get? name =
      if isReserved name then (moduleNames localName).lookup (.name name) else ns.get? name := by
  have either : (copyOf ns localName names).get? name =
      ((moduleNames localName).lookup (.name name)).or (names.lookup (.name name)) :=
    List.lookup_append
  rw [either, lookup]
  split
  · exact Option.or_none
  · next ordinary =>
    have unbound : (moduleNames localName).lookup (.name name) = none := by
      rw [List.lookup_eq_none_iff]
      intro entry there
      refine bne_iff_ne.2 fun same => ordinary ?_
      simp only [moduleNames, List.mem_cons, List.not_mem_nil, or_false] at there
      rcases there with rfl | rfl | rfl | rfl | rfl <;> exact Key.name.inj same ▸ by decide
    rw [unbound, Option.none_or]
    rfl

section Copy

variable {other : Scope} {localName : String} {names : List (Key × Value)} {ns : Namespace}
  (there : s.engine.space? scope.home = some ns)

include there

theorem space?_imported :
    (imported scope s other localName names).engine.space? s.engine.fresh =
      some (copyOf ((s.engine.space? other.home).getD .empty) localName names) := by
  show ((s.engine.allocate _).update _ _).space? _ = _
  rw [Engine.space?_update, Engine.space?_allocate, Option.map_some,
    if_neg (Engine.ne_fresh there).symm]

theorem global?_imported :
    (imported scope s other localName names).engine.global? scope.home localName =
      some (.module s.engine.fresh) := by
  have kept (new : Namespace) : (s.engine.allocate new).space? scope.home = some ns :=
    (s.engine.space?_allocate_of_ne (Engine.ne_fresh there) new).trans there
  exact Engine.global?_bindName _ (kept _) localName _

end Copy

/-- Nothing is bound in the other scopes. -/
theorem space?_imported_of_ne {other : Scope} {localName : String} {names : List (Key × Value)}
    {home : Home} (elsewhere : home ≠ scope.home) (old : home ≠ s.engine.fresh) :
    (imported scope s other localName names).engine.space? home = s.engine.space? home := by
  show ((s.engine.allocate _).update _ _).space? _ = _
  rw [Engine.space?_update, Engine.space?_allocate_of_ne _ old]
  cases s.engine.space? home with
  | none => rfl
  | some ns => rw [Option.map_some, if_neg elsewhere]

/-! ## Calls from another scope -/

/-- The message about a call. -/
def callMessage (function : String) (args : List Value) : String :=
  "Calling " ++ definitionAlias ++ "." ++ function ++ " with "
    ++ Numeral.text args.length ++ " argument(s)"

/-- Calls a function of a copy with the first row of a table as arguments. -/
def callCopy (caller : Scope) (function : String) (params : Option Table) : Work Value := do
  let args ← .argumentsOf params
  .tell .debug (callMessage function args)
  caller.call definitionAlias function args

/-- Calls a function of another scope. -/
def callOf (caller definitions : Scope) (function : String) (params : Option Table) :
    Work Value := do
  let copy ← caller.importScope definitions definitionAlias
  .releasing copy (caller.callCopy function params)

/-- The scope that functions are called from. -/
def caller (s : Session) : Scope := ⟨callName, s.engine.fresh⟩

/-- The home of the copy of the scope that they were defined in. -/
def copyHome (s : Session) : Home := (opened s callName).engine.fresh

/-- The session with both. -/
def lent (s : Session) (definitions : Scope) (names : List (Key × Value)) : Session :=
  imported (caller s) (opened s callName) definitions definitionAlias names

/-- The names of a scope that is in the session may be lent. -/
structure Lends (s : Session) (definitions : Scope) (ns : Namespace) (names : List (Key × Value)) :
    Prop where
  crosses : crossing (((opened s callName).engine.space? definitions.home).getD .empty).entries =
    .ok names
  lookup (name : String) : names.lookup (.name name) =
    if isReserved name then none else ns.entries.lookup (.name name)
  copy : (lent s definitions names).engine.space? (copyHome s) =
    some (copyOf ns definitionAlias names)
  bound : (lent s definitions names).engine.global? (caller s).home definitionAlias =
    some (.module (copyHome s))
  kept {home : Home} {other : Namespace} (there : s.engine.space? home = some other) :
    (lent s definitions names).engine.space? home = some other

/-- This is so if all keys are texts. -/
theorem exists_lends {definitions : Scope} {ns : Namespace}
    (there : s.engine.space? definitions.home = some ns)
    (texts : ∀ entry ∈ ns.entries, ∃ name, entry.1 = .name name) :
    ∃ names, Lends s definitions ns names := by
  obtain ⟨names, crosses, lookup⟩ := crossing_of_texts texts
  have opened_of {home : Home} {other : Namespace} (there : s.engine.space? home = some other) :
      (opened s callName).engine.space? home = some other :=
    (s.engine.space?_allocate_of_ne (Engine.ne_fresh there) _).trans there
  have calling : (opened s callName).engine.space? (caller s).home =
      some (initialNames callName) := s.engine.space?_allocate _
  refine ⟨names, ?_, lookup, ?_, global?_imported calling, fun there => ?_⟩
  · rw [opened_of there]
    exact crosses
  · refine (space?_imported calling).trans ?_
    rw [opened_of there]
    rfl
  · have still := opened_of there
    exact (space?_imported_of_ne (Engine.ne_fresh there) (Engine.ne_fresh still)).trans still

namespace Lends

variable {definitions : Scope} {ns : Namespace} {names : List (Key × Value)}

/-- The copy has no function for the names that it lacks. -/
theorem lacks (h : Lends s definitions ns names) :
    (lent s definitions names).engine.global? (copyHome s) "__getattr__" = none := by
  unfold Engine.global?
  rw [h.copy, Option.bind_some, get?_copyOf _ _ (h.lookup _)]
  rfl

end Lends

/-- The session in which the function is called. -/
def asked (s : Session) (definitions : Scope) (names : List (Key × Value)) (function : String)
    (params : Option Table) (args : List Value) : Session :=
  let noted := (lent s definitions names).noting params
  { noted with machine := noted.machine.tell .debug (callMessage function args) }

@[simp]
theorem engine_asked (s : Session) (definitions : Scope) (names : List (Key × Value))
    (function : String) (params : Option Table) (args : List Value) :
    (asked s definitions names function params args).engine = (lent s definitions names).engine :=
  Session.engine_noting _ params

section

variable {definitions : Scope} {ns : Namespace} {names : List (Key × Value)} {function : String}
  {params : Option Table} {args : List Value} (lends : Lends s definitions ns names)

include lends

end

end Scope

end EmbeddedPython
