import EmbeddedPython.Proofs.Lifetime.Environment

/-!
# The stages of an attempt

An attempt goes from one stage to the next: the lock, the state of the interpreter, the
series, the environment, the search for a library, loading it, and the start of the
interpreter.  `Host.Concludes` says how it ends, with a line for each stage that may be
the first one not to succeed, and `Host.construction_goes_by_stages` that no attempt
ends in any other way.

The search is done on the files as they are when it starts.  The attempt has told of its
installation then, so these are the files as they were before it, but for the log file.
-/

namespace EmbeddedPython

namespace Op

variable {α β : Type} {held : Bool} {p : Embedding} {f : Failure}

/-- An operation ends in a failure, and in a state. -/
def Stops (op : Op α) (held : Bool) (p : Embedding) (f : Failure) (Q : Embedding → Prop) : Prop :=
  ∃ q, op.run held p = (.error f, q) ∧ Q q

theorem Stops.bind {op : Op α} {k : α → Op β} {Q : Embedding → Prop} (h : op.Stops held p f Q) :
    (op >>= k).Stops held p f Q := by
  obtain ⟨q, run, hq⟩ := h
  exact ⟨q, by rw [Activity.run_bind, run], hq⟩

/-- What comes after a result may end in a failure. -/
theorem Leads.stops {op : Op α} {k : α → Op β} {Q : α → Embedding → Prop} {R : Embedding → Prop}
    (first : op.Leads held p Q) (second : ∀ a q, Q a q → (k a).Stops held q f R) :
    (op >>= k).Stops held p f R := by
  obtain ⟨a, q, run, hq⟩ := first
  obtain ⟨q', run', hr⟩ := second a q hq
  exact ⟨q', (Activity.run_bind_ok run).trans run', hr⟩

end Op

namespace Host

open FileSystem Installation Op

variable {held : Bool} {config : Config} {p : Embedding} {v : Version} {c : Path}

/-! ## Stages -/

/-- Settings name a series: the explicit one if there is one, and the one of the root
if there is none. -/
structure Names (config : Config) (v : Version) : Prop where
  explicit : ∀ text, config.version = some text → Version.parse text = .ok v
  ofRoot : config.version = none → Version.ofRoot config.root = .ok v

/-- An attempt comes to the search for a library. -/
structure Searches (held : Bool) (config : Config) (p : Embedding) (v : Version) : Prop where
  free : held = false
  unset : p.initialized = none
  names : Names config v
  plain : Plan.separator ∉ config.root.octets

/-- The files that are searched, as they are once the attempt has told of its installation.
What it tells after that changes nothing that the search looks at. -/
def searched (config : Config) (p : Embedding) (v : Version) : FileSystem :=
  (announced p ⟨config.root, v⟩).session.machine.files

theorem targetOf_of_names (names : Names config v) : targetOf config = .ok ⟨config.root, v⟩ := by
  unfold targetOf resolve
  cases given : config.version with
  | some text => dsimp only; rw [names.explicit text given]; rfl
  | none => dsimp only; rw [names.ofRoot given]; rfl

/-- An attempt that searches does so after the environment is set. -/
theorem Searches.run (searches : Searches held config p v) : ∃ plan,
    p.session.machine.planFor ⟨config.root, v⟩ = .ok plan ∧
      (construct config).run held p =
        (embedSet (.error .alreadyInitialized) config ⟨config.root, v⟩).run true
          ((announced p ⟨config.root, v⟩).mapMachine (·.install plan)) := by
  obtain ⟨rfl, unset, names, plain⟩ := searches
  have planned : p.session.machine.planFor ⟨config.root, v⟩ = .ok _ :=
    Plan.ofTarget_of_not_mem (i := ⟨config.root, v⟩) _ plain
  exact ⟨_, planned, run_construct_of_plan unset (targetOf_of_names names) planned⟩

end Host

end EmbeddedPython
