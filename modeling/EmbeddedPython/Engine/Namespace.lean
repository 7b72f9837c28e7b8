import EmbeddedPython.Lookup
import EmbeddedPython.Program.Statement

/-!
# Namespaces

A `Namespace` holds the globals of a scope or of a module in the order in
which they were first bound.  Its view is `Namespace.get?`: the value of a
name.

A key is nearly always a name, but a program may store a value under any
key that does not change.  `Key.name` is the name of a key for those who
need one, and the exception of taking the key for one otherwise.

A key may be a text of a derived type.  It stands for the same name as a plain
text, and the first key of a name is the one that stays.

The functions that are defined in a namespace have their code there, so both go
at the same time.
-/

namespace EmbeddedPython

/-- A key of a namespace. -/
inductive Key where
  | name (s : String)
  /-- A string that holds half of a surrogate pair. -/
  | broken
  /-- A value of another type. -/
  | other (typeName : String)
deriving Repr, DecidableEq

namespace Key

/-- The key that a value makes.  A value that may change makes none. -/
def ofValue (v : Value) : Except Raised Key :=
  match v.core with
  | .str s => .ok (.name s)
  | .brokenStr => .ok .broken
  | _ =>
    match v.unhashable? with
    | some typeName => .error ⟨"TypeError", "unhashable type: '" ++ typeName ++ "'"⟩
    | none => .ok (.other v.typeName)

/-- The name of the type of a key that is a text of a derived type. -/
def derivedType? (v : Value) : Option String :=
  match v, v.core with
  | .derived typeName _, .str _ => some typeName
  | _, _ => none

/-- The name that a key is. -/
def name? : Key → Option String
  | name s => some s
  | broken | other _ => none

/-- The name that a key is, for one who needs a text without halves of
surrogate pairs. -/
def text : Key → Except Raised String
  | name s => .ok s
  | broken =>
    .error ⟨"UnicodeEncodeError", "'utf-8' codec can't encode character: surrogates not allowed"⟩
  | other typeName =>
    .error ⟨"TypeError", "'" ++ typeName ++ "' object cannot be converted to 'str'"⟩

end Key

/-- The globals of a scope or of a module. -/
structure Namespace where
  entries : List (Key × Value)
  /-- The names whose keys are of derived types. -/
  keyTypes : List (String × String)
  codes : List Code
deriving Repr, Inhabited

namespace Namespace

/-- The namespace in which nothing is bound. -/
def empty : Namespace := ⟨[], [], []⟩

/-- The namespace of some names. -/
def ofList (entries : List (String × Value)) : Namespace :=
  ⟨entries.map fun (name, v) => (.name name, v), [], []⟩

/-- The value of a name. -/
def get? (ns : Namespace) (name : String) : Option Value :=
  ns.entries.lookup (.name name)

/-- The entries with a key bound.  A key that is there keeps its place. -/
def setIn (key : Key) (v : Value) : List (Key × Value) → List (Key × Value)
  | [] => [(key, v)]
  | entry :: rest => if entry.1 = key then (key, v) :: rest else entry :: setIn key v rest

/-- The namespace with a key bound. -/
def set (ns : Namespace) (key : Key) (v : Value) : Namespace :=
  { ns with entries := setIn key v ns.entries }

/-- The namespace with a note on the type of the key that a name is going to be
bound by.  A name that is bound keeps its key. -/
def noteKey (ns : Namespace) (key : Key) (typeName : Option String) : Namespace :=
  match key, typeName with
  | .name name, some typeName =>
    if (ns.get? name).isSome then ns
    else { ns with keyTypes := (name, typeName) :: ns.keyTypes }
  | _, _ => ns

/-- The namespace with one more code, behind the others. -/
def addCode (ns : Namespace) (code : Code) : Namespace :=
  { ns with codes := ns.codes ++ [code] }

/-- The namespace without a name. -/
def erase (ns : Namespace) (name : String) : Namespace :=
  { ns with
    entries := ns.entries.filter fun entry => entry.1 != .name name
    keyTypes := ns.keyTypes.filter fun entry => entry.1 != name }

theorem lookup_setIn (key : Key) (v : Value) (entries : List (Key × Value)) :
    (setIn key v entries).lookup key = some v := by
  induction entries with
  | nil => exact List.lookup_cons_self
  | cons entry rest ih =>
    rw [setIn]
    split
    · exact List.lookup_cons_self
    · next h =>
      have hne : (key == entry.1) = false := beq_eq_false_iff_ne.2 (Ne.symm h)
      rw [List.lookup_cons, hne, ih]

theorem lookup_setIn_of_ne {key other : Key} (h : other ≠ key) (v : Value)
    (entries : List (Key × Value)) :
    (setIn key v entries).lookup other = entries.lookup other := by
  have hkey : (other == key) = false := beq_eq_false_iff_ne.2 h
  induction entries with
  | nil => rw [setIn, List.lookup_cons, hkey]
  | cons entry rest ih =>
    rw [setIn]
    split
    · next he => rw [List.lookup_cons, List.lookup_cons, hkey, he, hkey]
    · rw [List.lookup_cons, List.lookup_cons, ih]

theorem mem_setIn {key : Key} {v : Value} {entries : List (Key × Value)} {entry : Key × Value}
    (h : entry ∈ setIn key v entries) : entry = (key, v) ∨ entry ∈ entries := by
  induction entries with
  | nil => exact .inl (List.mem_singleton.1 h)
  | cons other rest ih =>
    rw [setIn] at h
    split at h
    · exact (List.mem_cons.1 h).imp_right (List.mem_cons_of_mem _)
    · rcases List.mem_cons.1 h with rfl | h
      · exact .inr List.mem_cons_self
      · exact (ih h).imp_right (List.mem_cons_of_mem _)

theorem entries_noteKey (ns : Namespace) (key : Key) (typeName : Option String) :
    (ns.noteKey key typeName).entries = ns.entries ∧
      (ns.noteKey key typeName).codes = ns.codes := by
  unfold noteKey
  split
  · split <;> exact ⟨rfl, rfl⟩
  · exact ⟨rfl, rfl⟩

theorem get?_set (ns : Namespace) (name : String) (v : Value) :
    (ns.set (.name name) v).get? name = some v :=
  lookup_setIn (.name name) v ns.entries

theorem get?_set_of_ne (ns : Namespace) {key : Key} {name : String} (h : .name name ≠ key)
    (v : Value) : (ns.set key v).get? name = ns.get? name :=
  lookup_setIn_of_ne h v ns.entries

theorem get?_erase (ns : Namespace) (name : String) : (ns.erase name).get? name = none :=
  Lookup.lookup_without (Key.name name) ns.entries

theorem get?_erase_of_ne (ns : Namespace) {name other : String} (h : other ≠ name) :
    (ns.erase name).get? other = ns.get? other :=
  Lookup.lookup_without_of_ne (fun h' => h (Key.name.inj h')) ns.entries

/-- The place of half of a surrogate pair among the characters. -/
def brokenPlace : Nat := 0xD800

/-- A key that is a text, by the numbers of its characters, and how it is
shown. -/
def shownKey? (ns : Namespace) : Key → Option (List Nat × Value)
  | .name name =>
    let shown := match ns.keyTypes.lookup name with
      | some typeName => .derived typeName (.str name)
      | none => .str name
    some (name.toList.map Char.toNat, shown)
  | .broken => some ([brokenPlace], .brokenStr)
  | .other _ => none

/-- The keys that are texts, in order. -/
def names (ns : Namespace) : List Value :=
  let shown := ns.entries.filterMap fun entry => ns.shownKey? entry.1
  (shown.mergeSort fun a b => !(b.1 < a.1)).map fun k => k.2

end Namespace

end EmbeddedPython
