import EmbeddedPython.Proofs.Lifetime.Clients

/-!
# The protocol of initialization

What a thread may do to the state of initialization and to libraries depends on
the `Stage` it has come to.  A stage says what the thread knows, which stays true
whatever other threads do, and which library is in its hands.  `Stage.Does` is
one step of a thread with the stage it leads to.

`Obeys` says that an activity keeps to the protocol in whatever states it takes
its steps, as long as what its stages say is true in them.
-/

namespace EmbeddedPython

namespace World

/-- What initialized the interpreter. -/
def initialized (w : World) : Option Initialization := w.embedding.initialized

/-- The libraries that were opened and given back. -/
def libraries (w : World) : Libraries := w.embedding.libraries

/-- Hosts that are open have their libraries. -/
def Sound (w : World) : Prop := ∀ h ∈ w.hosts, h.library.isSome

end World

/-- How far a thread has come. -/
inductive Stage where
  /-- In no attempt, and without a library.  It may have seen that the
  interpreter is ready. -/
  | free (ready : Bool)
  /-- In no attempt, with the library of a host. -/
  | holding (number : Nat)
  /-- In an attempt that has not looked yet. -/
  | checking
  /-- In an attempt that found an interpreter. -/
  | refused
  /-- In an attempt that found no interpreter. -/
  | unset
  /-- In an attempt that opened a library. -/
  | opened (number : Nat)
  /-- In an attempt that initialized the interpreter. -/
  | recorded (number : Nat)
deriving DecidableEq

namespace Stage

/-- What a thread knows at a stage. -/
def Fits : Stage → World → Prop
  | free ready, w => ready = true → w.initialized.isSome
  | holding _, _ | checking, _ => True
  | refused, w | recorded _, w => w.initialized.isSome
  | unset, w | opened _, w => w.initialized = none

/-- The library in the hands of a thread. -/
def hand? : Stage → Option Nat
  | holding number | opened number | recorded number => some number
  | free _ | checking | refused | unset => none

/-- The thread may work with the session. -/
def Works : Stage → Prop
  | checking | refused => False
  | _ => True

/-- What a step of a thread may do, and the stage it leads to. -/
inductive Does : Stage → World → World → Stage → Prop
  | idle {g : Stage} {w : World} : Does g w w g
  /-- Work with the session. -/
  | works {g : Stage} {w w' : World} (allowed : g.Works)
      (initialized : w'.initialized = w.initialized) (libraries : w'.libraries = w.libraries)
      (hosts : w'.hosts = w.hosts) : Does g w w' g
  | seesReady {ready : Bool} {w : World} (h : w.initialized.isSome) :
      Does (free ready) w w (free true)
  | findsReady {w : World} (h : w.initialized.isSome) : Does checking w w refused
  | findsNone {w : World} (h : w.initialized = none) : Does checking w w unset
  | opens {w : World} :
      Does unset w { w with embedding := w.embedding.openLibrary } (opened w.libraries.opened)
  | records {number : Nat} {w : World} {i : Initialization} (h : w.initialized = none) :
      Does (opened number) w { w with embedding := w.embedding.record i } (recorded number)
  /-- An attempt gives its library back. -/
  | clears {library : Library} {w : World} :
      Does (opened library.number) w
        { w with embedding := w.embedding.releaseLibrary library } unset
  /-- A host is over, and its library is given back. -/
  | releases {library : Library} {w : World} :
      Does (holding library.number) w
        { w with embedding := w.embedding.releaseLibrary library } (free false)
  | adds {h : Host} {library : Library} {w : World} (has : h.library = some library) :
      Does (holding library.number) w (w.addHost h) (free false)
  | removes {ready : Bool} {index : Nat} {h : Host} {library : Library} {w : World}
      (host : w.hosts[index]? = some h) (has : h.library = some library) :
      Does (free ready) w (w.removeHost index) (holding library.number)

end Stage

/-! ## Activities that keep to the protocol -/

/-- A failure that is an error, and not the one of an attempt that found an
interpreter. -/
def Failure.IsPlain (f : Failure) : Prop :=
  ∃ e, f = .error e ∧ e ≠ .alreadyInitialized

/-- The end of an attempt at a stage. -/
def Attempted (g : Stage) : Except Failure Host → Prop
  | .ok h => ∃ library, h.library = some library ∧ g = .recorded library.number
  | .error f =>
    (g = .unset ∧ f.IsPlain) ∨ (g = .refused ∧ f = .error .alreadyInitialized)

/-- The end of anything else: no library is left in hand. -/
def Over {α : Type} (g : Stage) (_ : Except Failure α) : Prop :=
  ∃ ready, g = .free ready

/-- An activity keeps to the protocol from a stage on, and ends as it should. -/
inductive Obeys : {α : Type} → Stage → Activity World α →
    (Stage → Except Failure α → Prop) → Prop
  | ends {α : Type} {g : Stage} {r : Except Failure α} {Post : Stage → Except Failure α → Prop}
      (post : Post g r) : Obeys g (.ends r) Post
  | step {α : Type} {g : Stage} {change : World → World} {next : World → Activity World α}
      {Post : Stage → Except Failure α → Prop} (stage : World → Stage)
      (does : ∀ w, w.Sound → g.Fits w → g.Does w (change w) (stage w))
      (rest : ∀ w, w.Sound → g.Fits w → Obeys (stage w) (next w) Post) :
      Obeys g (.step change next) Post
  | attempt {α : Type} {ready : Bool} {body : Activity World Host}
      {next : Except Failure Host → Activity World α} {Post : Stage → Except Failure α → Prop}
      (inside : Obeys .checking body Attempted)
      (ok : ∀ h library, h.library = some library →
        Obeys (.holding library.number) (next (.ok h)) Post)
      (failed : ∀ f, Obeys (.free false) (next (.error f)) Post) :
      Obeys (.free ready) (.guarded .initialization body next) Post
  | use {α β : Type} {body : Activity World β} {next : Except Failure β → Activity World α}
      {Post : Stage → Except Failure α → Prop} (inside : Obeys (.free false) body Over)
      (rest : ∀ r, Obeys (.free false) (next r) Post) :
      Obeys (.free true) (.guarded .use body next) Post

namespace Obeys

variable {α β : Type} {g : Stage}

theorem andThen {a : Activity World α} {k : Except Failure α → Activity World β}
    {Between : Stage → Except Failure α → Prop} {Post : Stage → Except Failure β → Prop}
    (first : Obeys g a Between) (second : ∀ g' r, Between g' r → Obeys g' (k r) Post) :
    Obeys g (a.andThen k) Post := by
  induction first with
  | ends post => exact second _ _ post
  | step stage does _ ih => exact .step stage does fun w sound fits => ih w sound fits second
  | attempt body _ _ _ ihOk ihFailed =>
    exact .attempt body (fun h library has => ihOk h library has second)
      fun f => ihFailed f second
  | use body _ _ ih => exact .use body fun r => ih r second

theorem mono {a : Activity World α} {Post Post' : Stage → Except Failure α → Prop}
    (h : Obeys g a Post) (imp : ∀ g' r, Post g' r → Post' g' r) : Obeys g a Post' := by
  induction h with
  | ends post => exact .ends (imp _ _ post)
  | step stage does _ ih => exact .step stage does fun w sound fits => ih w sound fits imp
  | attempt inside _ _ _ ihOk ihFailed =>
    exact .attempt inside (fun h library has => ihOk h library has imp) fun f => ihFailed f imp
  | use inside _ _ ih => exact .use inside fun r => ih r imp

/-- A step that stays at its stage. -/
theorem stay {change : World → World} {next : World → Activity World α}
    {Post : Stage → Except Failure α → Prop}
    (does : ∀ w, w.Sound → g.Fits w → g.Does w (change w) g)
    (rest : ∀ w, w.Sound → g.Fits w → Obeys g (next w) Post) :
    Obeys g (.step change next) Post :=
  .step (fun _ => g) does rest

end Obeys

end EmbeddedPython
