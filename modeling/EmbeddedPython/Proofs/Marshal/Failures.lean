import EmbeddedPython.Host
import EmbeddedPython.Proofs.Marshal.Conversion

/-!
# What a failed conversion tells

A conversion that fails names the type that was asked for and the type of the value
that was found, at the first node that offends.  There is one way around this: the
year, the month and the day of a date are read before its time, and an exception
that comes up there is passed on as it is, while one that comes up in the time is a
misfit like any other.

* `HostType.Names` says which types a failed conversion may name.
* `HostType.DayRaises` says that a node is a date that passes on an exception.
* `HostType.failed_conversions_tell` is that a failed conversion does one or the
  other at the first node that offends, and which of the two.
-/

namespace EmbeddedPython

namespace HostType

/-- A failed conversion into a type may name a type: the type itself, or the type
that a value of a built-in type has as a cell. -/
inductive Names : HostType → HostType → Prop
  | itself (t : HostType) : Names t t
  | wideInt : Names cell int64
  | brokenText : Names cell text

/-- A node is a date whose year, month or day cannot be read: reading it raises an
exception of some type. -/
def DayRaises (n : HostType × Value) (kind : String) : Prop :=
  n.1 = dateTime ∧ ∃ m, n.2.core = .dateTime m ∧ m.Raises kind

/-- A node that offends passes on an exception of its day, or else names its value
and a type. -/
theorem Offends.tells {t : HostType} {v : Value} {e : Misfit} (h : Offends t v e) :
    (∃ kind, DayRaises (t, v) kind ∧ e = .raised kind) ∨
      (∀ kind, ¬DayRaises (t, v) kind) ∧ ∃ target, t.Names target ∧ e = target.misfit v := by
  have noDate {t : HostType} (other : t ≠ dateTime) (kind : String) : ¬DayRaises (t, v) kind :=
    fun raises => other raises.1
  cases h with
  | scalar scalar => exact .inr ⟨noDate fun same => by subst same; exact scalar, _, .itself _, rfl⟩
  | noDate no => exact .inr ⟨fun kind ⟨_, m, core, _⟩ => no m core, _, .itself _, rfl⟩
  | raising core raises => exact .inl ⟨_, ⟨rfl, _, core, raises⟩, rfl⟩
  | noMoment core calm =>
    refine .inr ⟨fun kind ⟨_, m, core', raises⟩ => ?_, _, .itself _, rfl⟩
    obtain rfl := Value.dateTime.inj (core.symm.trans core')
    exact calm kind raises
  | wideInt => exact .inr ⟨noDate nofun, _, .wideInt, rfl⟩
  | brokenText => exact .inr ⟨noDate nofun, _, .brokenText, rfl⟩
  | noCell | noItems | noPair | noTriple => exact .inr ⟨noDate nofun, _, .itself _, rfl⟩

/-- The first node that offends has nodes without offence in front of it. -/
theorem FirstOffence.split {ns : List (HostType × Value)} {e : Misfit} (h : FirstOffence ns e) :
    ∃ before n after, ns = before ++ n :: after ∧ Calm before ∧ Offends n.1 n.2 e := by
  induction h with
  | @here t v rest e h => exact ⟨[], (t, v), rest, rfl, fun _ mem => (nomatch mem), h⟩
  | @later t v rest e calm _ ih =>
    obtain ⟨before, n, after, rfl, others, h⟩ := ih
    refine ⟨(t, v) :: before, n, after, rfl, fun m mem => ?_, h⟩
    rcases List.mem_cons.1 mem with rfl | mem
    · exact calm
    · exact others m mem

/-- A conversion that fails does so at the first node that offends.  It names a type
of the host and the type of the value there, unless the node is a date whose year,
month or day cannot be read: then the exception is passed on. -/
theorem failed_conversions_tell (t : HostType) (v : Value) (e : HostError)
    (fails : Host.convert t v = .error e) :
    ∃ before n after, t.nodes v = before ++ n :: after ∧ Calm before ∧
      ((∃ kind, DayRaises n kind ∧ e = .python ⟨kind, ""⟩) ∨
        (∀ kind, ¬DayRaises n kind) ∧
          ∃ target, n.1.Names target ∧ e = .invalidCast target n.2.typeName) := by
  unfold Host.convert at fails
  cases found : t.read v with
  | ok r =>
    rw [found] at fails
    cases fails
  | error misfit =>
    rw [found] at fails
    obtain rfl : HostError.ofMisfit misfit = e := Except.error.inj fails
    obtain ⟨before, n, after, nodes, calm, offends⟩ := (read_eq_error_iff.1 found).split
    refine ⟨before, n, after, nodes, calm, ?_⟩
    rcases offends.tells with ⟨kind, raises, rfl⟩ | ⟨noDay, target, names, rfl⟩
    · exact .inl ⟨kind, raises, rfl⟩
    · exact .inr ⟨noDay, target, names, rfl⟩

namespace OddDate

/-- A date of a subclass that overrides one of the attributes. -/
def of (change : Moment → Moment) : Value :=
  .derived "Dt" (.dateTime (change (.ofNumbers 2024 2 29 13 45 30 250)))

/-- A date whose month is a text. -/
def month : Value := of fun m => { m with month := .text }

/-- A date whose second is a text. -/
def second : Value := of fun m => { m with second := .text }

end OddDate

open OddDate in
/-- In a row of dates, the first one that cannot be read decides: here its second is
a text, which is a misfit, and the month behind it is never looked at. -/
theorem odd_second_is_misfit :
    let v : Value := .tuple [.none, second, month]
    let t : HostType := list (option dateTime)
    Host.convert t v = .error (.invalidCast dateTime "Dt") ∧
      ∃ before n after, t.nodes v = before ++ n :: after ∧ Calm before ∧
        ((∃ kind, DayRaises n kind ∧
            HostError.invalidCast dateTime "Dt" = .python ⟨kind, ""⟩) ∨
          (∀ kind, ¬DayRaises n kind) ∧
            ∃ target, n.1.Names target ∧
              HostError.invalidCast dateTime "Dt" = .invalidCast target n.2.typeName) := by
  intro v t
  have fails : Host.convert t v = .error (.invalidCast dateTime "Dt") := rfl
  exact ⟨fails, failed_conversions_tell t v _ fails⟩

open OddDate in
/-- A month that is a text is no misfit, though a second that is one is. -/
theorem odd_month_is_no_misfit :
    ¬(∀ (t : HostType) (v : Value) (e : HostError), Host.convert t v = .error e →
        ∃ target found, e = .invalidCast target found) ∧
      Host.convert dateTime month = .error (.python ⟨"TypeError", ""⟩) ∧
      Host.convert dateTime second = .error (.invalidCast dateTime "Dt") := by
  have raises : Host.convert dateTime month = .error (.python ⟨"TypeError", ""⟩) := rfl
  refine ⟨fun casts => ?_, raises, rfl⟩
  obtain ⟨target, found, same⟩ := casts _ _ _ raises
  cases same

end HostType

end EmbeddedPython
