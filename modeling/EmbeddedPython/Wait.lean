import EmbeddedPython.Child

/-!
# Waiting for a child

The host looks at a child again and again.  At each `Look` it first asks
whether the child has ended, and then reads the clock: a child that has ended
is never killed, even when it is late, and one that has not is killed once
the clock shows the deadline.

`Wait.decideFrom` is the loop over any row of looks.  `Wait.decide` is the
loop over the looks of the host, which are one interval apart.
-/

namespace EmbeddedPython

/-- How waiting for a child ended. -/
inductive Decision where
  /-- The child had ended at this moment. -/
  | exited (status : ExitStatus) (moment : Nat)
  /-- The child was killed at this moment. -/
  | killed (moment : Nat)
deriving Repr, DecidableEq

/-- The moment of a decision that counts for what the child has done. -/
def Decision.moment : Decision → Nat
  | exited _ moment | killed moment => moment

namespace Wait

/-- The moments at which a child is looked at and the clock is read. -/
structure Look where
  polled : Nat
  read : Nat
deriving Repr, DecidableEq

/-- The decision of the looks from the `k`th on, if one of the next `count`
makes it. -/
def decideFrom (child : Child) (deadline : Nat) (looks : Nat → Look) :
    (count : Nat) → (k : Nat) → Option Decision
  | 0, _ => none
  | count + 1, k =>
    match child.endedBy? (looks k).polled with
    | some (moment, status) => some (.exited status moment)
    | none =>
      if deadline ≤ (looks k).read then some (.killed (looks k).read)
      else decideFrom child deadline looks count (k + 1)

/-- The milliseconds between two looks. -/
def interval : Nat := 50

/-- The looks of the host. -/
def regular (k : Nat) : Look :=
  ⟨interval * k, interval * k⟩

/-- The number of looks after which the clock shows the deadline. -/
def enough (deadline : Nat) : Nat :=
  deadline / interval + 2

/-- The decision on a child.  One of the looks makes it. -/
def decide (child : Child) (deadline : Nat) : Decision :=
  (decideFrom child deadline regular (enough deadline) 0).getD (.killed deadline)

end Wait

end EmbeddedPython
