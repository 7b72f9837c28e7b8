import EmbeddedPython.Call

/-!
# Clients of an embedding

A `Client` is a program of the process around an embedding: it tries to embed an
interpreter, uses hosts, closes and drops them, and does all of this inside of
the lock as well, if it wants to.  What it does next may depend on what came of
what it did before.

Hosts that were made and not closed are in a `World` together with the process.
They are shared: a host is used by any client, and whoever closes or drops one
takes it out of the world first, so that nobody else can.
-/

namespace EmbeddedPython

/-! ## Activities on a part of a state -/

namespace Activity

variable {σ τ : Type}

/-- An activity on a part of a larger state. -/
def on (part : Part σ τ) : {α : Type} → Activity τ α → Activity σ α
  | _, ends r => ends r
  | _, step change next =>
    step (fun s => part.put (change (part.get s)) s) fun s => (next (part.get s)).on part
  | _, guarded purpose body next =>
    guarded purpose (body.on part) fun r => (next r).on part

theorem on_andThen {α β : Type} (part : Part σ τ) (a : Activity τ α)
    (k : Except Failure α → Activity τ β) :
    (a.andThen k).on part = (a.on part).andThen fun r => (k r).on part := by
  induction a with
  | ends r => rfl
  | step change next ih =>
    simp only [andThen, on]
    congr 1
    funext s
    exact ih _ k
  | guarded purpose body next _ ih =>
    simp only [andThen, on]
    congr 1
    funext r
    exact ih r k

/-- An activity on a part goes on as it does by itself, and the rest stays. -/
theorem run_on {α : Type} (part : Part σ τ) (a : Activity τ α) (held : Bool) (s : σ) :
    (a.on part).run held s =
      ((a.run held (part.get s)).1, part.put (a.run held (part.get s)).2 s) := by
  induction a generalizing held s with
  | ends r => exact congrArg (Prod.mk r) (part.put_get s).symm
  | step change next ih =>
    have after := ih (part.get s) held (part.put (change (part.get s)) s)
    rwa [part.get_put, part.put_put] at after
  | guarded purpose body next ihBody ih =>
    cases held with
    | true => exact ih _ true s
    | false =>
      have after := ih (body.run true (part.get s)).1 false
        (part.put (body.run true (part.get s)).2 s)
      rw [part.get_put, part.put_put] at after
      show ((next ((body.on part).run true s).1).on part).run false
        ((body.on part).run true s).2 = _
      rw [ihBody true s]
      exact after

end Activity

/-! ## Worlds -/

/-- A process and the hosts in it that are open. -/
structure World where
  embedding : Embedding
  hosts : List Host

namespace World

/-- The embedding of a world. -/
def inEmbedding : Part World Embedding where
  get w := w.embedding
  put embedding w := { w with embedding }
  get_put _ _ := rfl
  put_get _ := rfl
  put_put _ _ _ := rfl

/-- The world with one more host. -/
def addHost (w : World) (h : Host) : World :=
  { w with hosts := w.hosts ++ [h] }

/-- The world without one of its hosts. -/
def removeHost (w : World) (index : Nat) : World :=
  { w with hosts := w.hosts.eraseIdx index }

end World

/-! ## Clients -/

/-- A program that embeds an interpreter and uses it. -/
inductive Client where
  | stop
  /-- The end in an error or a panic. -/
  | fails (f : Failure)
  /-- Tries to embed the interpreter that settings name. -/
  | construct (config : Config) (next : Except Failure Unit → Client)
  /-- Makes a call on one of the hosts. -/
  | call (index : Nat) (operation : Call) (next : Option (Except Failure Reply) → Client)
  | close (index : Nat) (next : Client)
  | drop (index : Nat) (next : Client)
  /-- Goes on inside of the lock, if the interpreter is ready. -/
  | within (inner : Client) (next : Except Failure Unit → Client)

namespace Client

/-- Takes a host out of the world and ends it. -/
def endHost (index : Nat) (finish : Host → Op Unit) (next : Activity World Unit) :
    Activity World Unit :=
  .step (·.removeHost index) fun w =>
    match w.hosts[index]? with
    | none => next
    | some h => ((finish h).on World.inEmbedding).andThen fun _ => next

/-- What a client does.  A host is in the world as soon as its maker gives it
away. -/
def activity (already : Failure) : Client → Activity World Unit
  | stop => .ends (.ok ())
  | fails f => .ends (.error f)
  | construct config next =>
    ((Host.constructOr already config).on World.inEmbedding).andThen fun
      | .ok h => .step (·.addHost h) fun _ => (next (.ok ())).activity already
      | .error f => (next (.error f)).activity already
  | call index operation next =>
    .step id fun w =>
      match w.hosts[index]? with
      | none => (next none).activity already
      | some h =>
        ((operation.op h).on World.inEmbedding).andThen fun r => (next (some r)).activity already
  | close index next => endHost index Host.close (next.activity already)
  | drop index next => endHost index Host.drop (next.activity already)
  | within inner next =>
    .step id fun w =>
      if w.embedding.initialized.isNone then
        (next (.error (.error .notInitialized))).activity already
      else .guarded .use (inner.activity already) fun r => (next r).activity already

end Client

end EmbeddedPython
