import EmbeddedPython.Path

/-!
# Octet strings cut at a separator

`Path.splitAt` cuts an octet string into stretches and `Path.joinWith` puts
stretches together.  Stretches without separators are what their list is cut into
(`Path.splitAt_joinWith`), and those of a cut have none
(`Path.not_mem_of_mem_splitAt`).
-/

namespace EmbeddedPython

namespace Path

variable {separator : UInt8}

theorem splitAt_cons_self (octets : Octets) :
    splitAt separator (separator :: octets) = [] :: splitAt separator octets := by
  rw [splitAt]
  cases cut : splitAt separator octets with
  | nil => exact absurd cut (splitAt_ne_nil separator octets)
  | cons first more => simp

theorem splitAt_cons_of_ne {b : UInt8} (h : b ≠ separator) {octets first : Octets}
    {more : List Octets} (cut : splitAt separator octets = first :: more) :
    splitAt separator (b :: octets) = (b :: first) :: more := by
  rw [splitAt, cut]
  simp [h]

/-- A stretch without separators in front of one. -/
theorem splitAt_append_cons {front : Octets} (h : separator ∉ front) (octets : Octets) :
    splitAt separator (front ++ separator :: octets) = front :: splitAt separator octets := by
  induction front with
  | nil => exact splitAt_cons_self octets
  | cons b front ih =>
    rw [List.mem_cons, not_or] at h
    obtain ⟨ne, rest⟩ := h
    exact splitAt_cons_of_ne (Ne.symm ne) (ih rest)

theorem splitAt_of_not_mem {octets : Octets} (h : separator ∉ octets) :
    splitAt separator octets = [octets] := by
  induction octets with
  | nil => rfl
  | cons b octets ih =>
    rw [List.mem_cons, not_or] at h
    obtain ⟨ne, rest⟩ := h
    exact splitAt_cons_of_ne (Ne.symm ne) (ih rest)

/-- Entries without separators are what their list is cut into. -/
theorem splitAt_joinWith {entries : List Octets} (nonempty : entries ≠ [])
    (plain : ∀ entry ∈ entries, separator ∉ entry) :
    splitAt separator (joinWith separator entries) = entries := by
  induction entries with
  | nil => exact absurd rfl nonempty
  | cons entry entries ih =>
    cases entries with
    | nil => exact splitAt_of_not_mem (plain entry List.mem_cons_self)
    | cons next more =>
      rw [joinWith, splitAt_append_cons (plain entry List.mem_cons_self),
        ih (List.cons_ne_nil _ _) fun e mem => plain e (List.mem_cons_of_mem _ mem)]
      exact List.cons_ne_nil _ _

/-- No stretch of a cut has a separator in it. -/
theorem not_mem_of_mem_splitAt {octets entry : Octets} (h : entry ∈ splitAt separator octets) :
    separator ∉ entry := by
  induction octets generalizing entry with
  | nil =>
    rw [List.mem_singleton.1 h]
    exact List.not_mem_nil
  | cons b octets ih =>
    cases cut : splitAt separator octets with
    | nil => exact absurd cut (splitAt_ne_nil separator octets)
    | cons first more =>
      rw [cut] at ih
      by_cases same : b = separator
      · subst same
        rw [splitAt_cons_self, cut] at h
        rcases List.mem_cons.1 h with rfl | h
        · exact List.not_mem_nil
        · exact ih h
      · rw [splitAt_cons_of_ne same cut] at h
        rcases List.mem_cons.1 h with rfl | h
        · rw [List.mem_cons, not_or]
          exact ⟨Ne.symm same, ih List.mem_cons_self⟩
        · exact ih (List.mem_cons_of_mem _ h)

/-- An ending without separators goes to the end of the last stretch. -/
theorem splitAt_append {separator : UInt8} (octets : Octets) {ending : Octets}
    (h : separator ∉ ending) : ∃ front last, splitAt separator octets = front ++ [last] ∧
      splitAt separator (octets ++ ending) = front ++ [last ++ ending] := by
  induction octets with
  | nil => exact ⟨[], [], rfl, splitAt_of_not_mem h⟩
  | cons b rest ih =>
    obtain ⟨front, last, cut, longer⟩ := ih
    rw [List.cons_append, splitAt, splitAt, cut, longer]
    cases front with
    | nil =>
      dsimp only [List.nil_append]
      split
      · exact ⟨[[]], last, rfl, rfl⟩
      · exact ⟨[], b :: last, rfl, rfl⟩
    | cons first more =>
      dsimp only [List.cons_append]
      split
      · exact ⟨[] :: first :: more, last, rfl, rfl⟩
      · exact ⟨(b :: first) :: more, last, rfl, rfl⟩

/-- A stretch without separators in front goes to the start of the first stretch. -/
theorem splitAt_append_left {front first : Octets} {more : List Octets} (h : separator ∉ front)
    {octets : Octets} (cut : splitAt separator octets = first :: more) :
    splitAt separator (front ++ octets) = (front ++ first) :: more := by
  induction front with
  | nil => exact cut
  | cons b front ih =>
    rw [List.mem_cons, not_or] at h
    obtain ⟨ne, rest⟩ := h
    exact splitAt_cons_of_ne (Ne.symm ne) (ih rest)

end Path

end EmbeddedPython
