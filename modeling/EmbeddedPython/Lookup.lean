/-!
# Values by key

Environment variables, files and namespaces are kept as lists of pairs, and
`List.lookup` is their view: the value of the first pair with a key.  The
lemmas say what the view becomes when pairs are taken out, put in front, put
behind, or changed in place.
-/

namespace EmbeddedPython.Lookup

variable {α β : Type} [BEq α] [LawfulBEq α]

theorem mem_of_lookup {key : α} {v : β} {entries : List (α × β)}
    (h : entries.lookup key = some v) : (key, v) ∈ entries := by
  obtain ⟨front, behind, split, -⟩ := List.lookup_eq_some_iff.1 h
  rw [split]
  exact List.mem_append_right _ List.mem_cons_self

/-- A key whose pairs were taken out has no value. -/
theorem lookup_without (key : α) (entries : List (α × β)) :
    (entries.filter fun entry => entry.1 != key).lookup key = none := by
  rw [List.lookup_eq_none_iff]
  intro entry hentry
  have hkept := (List.mem_filter.1 hentry).2
  rw [bne_iff_ne] at hkept
  exact bne_iff_ne.2 hkept.symm

/-- All other keys keep their values. -/
theorem lookup_without_of_ne {key other : α} (h : other ≠ key) (entries : List (α × β)) :
    (entries.filter fun entry => entry.1 != key).lookup other = entries.lookup other := by
  induction entries with
  | nil => rfl
  | cons entry rest ih =>
    rw [List.filter_cons, List.lookup_cons]
    split
    · rw [List.lookup_cons, ih]
    · next hkey =>
      have heq : entry.1 = key := by simpa using hkey
      have hne : (other == entry.1) = false := by
        rw [heq, beq_eq_false_iff_ne]
        exact h
      rw [hne, ih]

/-- A pair in front, in place of those with its key, leaves all other keys
their values. -/
theorem lookup_put_of_ne {key other : α} (h : other ≠ key) (value : β)
    (entries : List (α × β)) :
    ((key, value) :: entries.filter fun entry => entry.1 != key).lookup other
      = entries.lookup other := by
  have hne : (other == key) = false := beq_eq_false_iff_ne.2 h
  rw [List.lookup_cons, hne, lookup_without_of_ne h]

/-- A pair behind all others gives its key a value that had none. -/
theorem lookup_behind {key : α} {entries : List (α × β)} (h : entries.lookup key = none)
    (value : β) : (entries ++ [(key, value)]).lookup key = some value := by
  rw [List.lookup_append, h, List.lookup_cons_self]
  rfl

/-- It leaves all other keys their values. -/
theorem lookup_behind_of_ne {key other : α} (h : other ≠ key) (value : β)
    (entries : List (α × β)) :
    (entries ++ [(key, value)]).lookup other = entries.lookup other := by
  have hne : (other == key) = false := beq_eq_false_iff_ne.2 h
  rw [List.lookup_append, List.lookup_cons, hne, List.lookup_nil, Option.or_none]

/-- A change of the values, each by its key, is a change of the view. -/
theorem lookup_map (f : α → β → β) (key : α) (entries : List (α × β)) :
    (entries.map fun (k, v) => (k, f k v)).lookup key = (entries.lookup key).map (f key) := by
  induction entries with
  | nil => rfl
  | cons entry rest ih =>
    rw [List.map_cons, List.lookup_cons, List.lookup_cons, ih]
    split
    · next h =>
      rw [eq_of_beq h]
      rfl
    · rfl

end EmbeddedPython.Lookup
