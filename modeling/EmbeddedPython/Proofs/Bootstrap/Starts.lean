import EmbeddedPython.Proofs.Bootstrap.Attempts

/-!
# The commands that are started

A launcher only says what becomes of a command, so nobody can tell from the end of a
bootstrap which commands were started.  `Bootstrap.Noting` is work that keeps a note
of each start, and `Bootstrap.Notes` says that noting work does what some work does.
The course of a bootstrap is the same with notes (`Bootstrap.notes_install`), and what
is noted is the one command for the script, or nothing.
-/

namespace EmbeddedPython.Bootstrap

/-- Commands with the machines that they were started on. -/
abbrev Starts := List (Machine × Command)

/-- Work with an interpreter that notes the commands that it starts. -/
def Noting (α : Type) : Type := Session × Starts → Except Failure α × Session × Starts

namespace Noting

variable {α β : Type}

/-- Noting work after noting work that came to a result. -/
def bind (n : Noting α) (k : α → Noting β) : Noting β := fun s =>
  match n s with
  | (.ok a, s) => k a s
  | (.error f, s) => (.error f, s)

instance : Monad Noting where
  pure a s := (.ok a, s)
  bind := bind

/-- Work that starts nothing. -/
def ofWork (w : Work α) : Noting α := fun (s, starts) => ((w.exec s).1, (w.exec s).2, starts)

instance : MonadLift Work Noting := ⟨ofWork⟩

/-- Starts a command on the machine as it is, and notes it. -/
def start (launch : Launcher) (command : Command) : Noting (Except FileFault Child) :=
  fun (s, starts) => (.ok (launch s.machine command), s, starts ++ [(s.machine, command)])

end Noting

variable {α β : Type}

/-- Noting work does to a session what some work does, and notes some starts. -/
def Notes (n : Noting α) (w : Work α) (s : Session) (starts : Starts) : Prop :=
  ∀ before, n (s, before) = ((w.exec s).1, (w.exec s).2, before ++ starts)

namespace Notes

variable {n : Noting α} {w : Work α} {k : α → Noting β} {k' : α → Work β} {s s' : Session}
  {starts more : Starts} {a : α} {f : Failure}

theorem ofWork (w : Work α) (s : Session) : Notes (Noting.ofWork w) w s [] := by
  intro before
  rw [List.append_nil]
  rfl

theorem start (launch : Launcher) (command : Command) (s : Session) :
    Notes (Noting.start launch command) (Bootstrap.start launch command) s
      [(s.machine, command)] :=
  fun _ => rfl

theorem bind_ok (first : Notes n w s starts) (h : w.exec s = (.ok a, s'))
    (second : Notes (k a) (k' a) s' more) : Notes (n >>= k) (w >>= k') s (starts ++ more) := by
  intro before
  rw [Work.exec_bind_ok h, ← List.append_assoc, ← second]
  show Noting.bind n k (s, before) = _
  rw [Noting.bind, first, h]

theorem bind_error (first : Notes n w s starts) (h : w.exec s = (.error f, s')) :
    Notes (n >>= k) (w >>= k') s starts := by
  intro before
  rw [Work.exec_bind_error h]
  show Noting.bind n k (s, before) = _
  rw [Noting.bind, first, h]

/-- Work that notes nothing, before or after work that does. -/
theorem bind_left (first : Notes n w s []) (h : w.exec s = (.ok a, s'))
    (second : Notes (k a) (k' a) s' more) : Notes (n >>= k) (w >>= k') s more :=
  first.bind_ok h second

theorem bind_right (first : Notes n w s starts) (second : ∀ a s', Notes (k a) (k' a) s' []) :
    Notes (n >>= k) (w >>= k') s starts := by
  cases h : w.exec s with
  | mk r s' =>
    cases r with
    | error f => exact first.bind_error h
    | ok a =>
      rw [← List.append_nil starts]
      exact first.bind_ok h (second a s')

end Notes

variable {launch : Launcher} {i : Installation} {config : Config}

/-- The command for the script, if it can be tried on a machine. -/
def scriptStarts (i : Installation) (config : Config) (m : Machine) : Starts :=
  match m.interpreter? i.root i.series with
  | none => []
  | some executable =>
    if m.files.isFile (scriptPath i config) then
      [(launching m (commandOf i config executable), commandOf i config executable)]
    else []

/-- The script is started once, if its executable and the script are there. -/
theorem notes_runScript (launch : Launcher) (i : Installation) (config : Config) (s : Session) :
    Notes (runScriptWith (Noting.start launch) i config) (runScriptWith (start launch) i config) s
      (scriptStarts i config s.machine) := by
  refine Notes.bind_left (.ofWork Work.machine s) (Work.exec_machine s) ?_
  unfold scriptStarts
  cases s.machine.interpreter? i.root i.series with
  | none => exact .ofWork (pure _) s
  | some executable =>
    dsimp only
    cases s.machine.files.isFile (scriptPath i config) with
    | false => exact .ofWork (pure _) s
    | true =>
      refine Notes.bind_left (.ofWork _ s) (Work.exec_tell ..) ?_
      refine Notes.bind_right (.start launch _ _) fun r s' => ?_
      cases r with
      | error fault => exact .ofWork (pure _) s'
      | ok child => exact .ofWork _ s'

/-! ## The course of a bootstrap -/

/-- The package installer can be imported. -/
def Imports (w : Workspace) : Prop :=
  ∃ home, ((Run.importModule moduleName).exec w).1 = .ok home

/-- What the import of the package installer leaves, whether it succeeds or not. -/
def imported (w : Workspace) : Workspace := ((Run.importModule moduleName).exec w).2

theorem exec_importable {s : Session} (h : Imports s.inner) :
    importable.exec s = (.ok true, s.withInner (imported s.inner)) := by
  obtain ⟨home, found⟩ := h
  rw [importable, Work.exec_bind_ok (Work.exec_outcomeOf _ s), found]
  rfl

theorem exec_importable_of_not {s : Session} (h : ¬Imports s.inner) :
    importable.exec s = (.ok false, s.withInner (imported s.inner)) := by
  cases found : ((Run.importModule moduleName).exec s.inner).1 with
  | ok home => exact absurd ⟨home, found⟩ h
  | error e =>
    rw [importable, Work.exec_bind_ok (Work.exec_outcomeOf _ s), found]
    rfl

/-- The session in which the script is tried. -/
def trying (i : Installation) (s : Session) : Session :=
  { s with machine := s.machine.tell .step ("Bootstrapping pip into " ++ i.root.display) }

theorem notes_tryScript (launch : Launcher) (i : Installation) (config : Config) (s : Session) :
    Notes (tryScriptWith (Noting.start launch) i config) (tryScriptWith (start launch) i config) s
      (scriptStarts i config (trying i s).machine) := by
  refine Notes.bind_left (.ofWork _ s) (Work.exec_tell ..) ?_
  refine Notes.bind_right (notes_runScript launch i config _) fun r s' => ?_
  cases r with
  | ok _ => exact .ofWork (pure _) s'
  | error fault => exact Notes.bind_left (.ofWork _ s') (Work.exec_tell ..) (.ofWork (pure _) _)

/-- Nothing is started where the package installer is there already. -/
theorem notes_install (launch : Launcher) (i : Installation) (config : Config) {s : Session}
    (present : Imports s.inner) :
    Notes (installWith (Noting.start launch) i config) (install launch i config) s [] :=
  Notes.bind_left (.ofWork importable s) (exec_importable present)
    (Notes.bind_left (.ofWork _ _) (Work.exec_tell ..) (.ofWork (pure _) _))

/-- Elsewhere the script is started if it can be. -/
theorem notes_install_of_not (launch : Launcher) (i : Installation) (config : Config) {s : Session}
    (absent : ¬Imports s.inner) :
    Notes (installWith (Noting.start launch) i config) (install launch i config) s
      (scriptStarts i config (trying i (s.withInner (imported s.inner))).machine) := by
  refine Notes.bind_left (.ofWork importable s) (exec_importable_of_not absent) ?_
  exact Notes.bind_right (notes_tryScript launch i config _) fun reason s' => .ofWork _ s'

end EmbeddedPython.Bootstrap
