import EmbeddedPython.Proofs.Threads.Discipline
import EmbeddedPython.Proofs.Threads.Preparation

/-!
# Turns

Threads share one host and make calls on it, and their steps come in any order.
Each call takes its `Turn` when its body ends, or when it turns out that it needs
no lock.  A turn is the call as it was prepared.  Only the script of
`Host.runFile` is prepared before the lock is held, so a turn comes with the files
that the script was read from, and these may be older than the files that the
turn finds.

* `Host.makeCalls` is what a thread does, and `serially` is one operation after
  another by a lone thread.
* `Serialized` ties threads in the middle of their calls to the turns that were
  taken, and `Serialized.step` is that every step keeps the tie.
-/

namespace EmbeddedPython

/-- What came of a call. -/
abbrev Outcome := Except Failure Reply

/-- A thread that has made some calls and makes others.  Between two calls it
does something of its own. -/
def Host.makeCalls (h : Host) : List Outcome → List Call → Op (List Outcome)
  | outcomes, [] => .ends (.ok outcomes)
  | outcomes, call :: rest =>
    .step id fun _ => (call.op h).andThen fun r => h.makeCalls (outcomes ++ [r]) rest

/-- Operations of threads, each of which is alone. -/
def serially {ι : Type} : List (ι × Op Reply) → Embedding → List (ι × Outcome) × Embedding
  | [], p => ([], p)
  | (i, op) :: rest, p =>
    let first := op.run false p
    let others := serially rest first.2
    ((i, first.1) :: others.1, others.2)

/-- A call of a thread, and the files that its script was read from if it runs
one. -/
structure Turn (ι : Type) where
  thread : ι
  call : Call
  files : FileSystem

section Turns

variable {ι : Type} [DecidableEq ι]

omit [DecidableEq ι] in
theorem serially_append (ops others : List (ι × Op Reply)) (p : Embedding) :
    serially (ops ++ others) p =
      ((serially ops p).1 ++ (serially others (serially ops p).2).1,
        (serially others (serially ops p).2).2) := by
  induction ops generalizing p with
  | nil => rfl
  | cons first rest ih =>
    obtain ⟨i, op⟩ := first
    simp only [List.cons_append, serially, ih]

/-- What comes of turns. -/
def Host.takeTurns (h : Host) (turns : List (Turn ι)) (p : Embedding) :
    List (ι × Outcome) × Embedding :=
  serially (turns.map fun t => (t.thread, t.call.opSeeing h t.files)) p

/-- What a thread has of what belongs to threads. -/
def ofThread {β : Type} (i : ι) (entries : List (ι × β)) : List β :=
  (entries.filter fun entry => entry.1 = i).map Prod.snd

@[simp]
theorem ofThread_append {β : Type} (i : ι) (entries others : List (ι × β)) :
    ofThread i (entries ++ others) = ofThread i entries ++ ofThread i others := by
  simp [ofThread]

@[simp]
theorem ofThread_self {β : Type} (i : ι) (b : β) : ofThread i [(i, b)] = [b] := by
  simp [ofThread]

theorem ofThread_of_ne {β : Type} {i j : ι} (h : i ≠ j) (b : β) : ofThread j [(i, b)] = [] := by
  simp [ofThread, h]

/-- The calls of a thread among turns. -/
def callsOf (i : ι) (turns : List (Turn ι)) : List Call :=
  ofThread i (turns.map fun t => (t.thread, t.call))

omit [DecidableEq ι] in
theorem takeTurns_concat (h : Host) (turns : List (Turn ι)) (t : Turn ι) (p : Embedding)
    {r : Outcome} {q : Embedding}
    (last : (t.call.opSeeing h t.files).run false (h.takeTurns turns p).2 = (r, q)) :
    h.takeTurns (turns ++ [t]) p = ((h.takeTurns turns p).1 ++ [(t.thread, r)], q) := by
  rw [Host.takeTurns, List.map_append, serially_append]
  show (_ ++ [(t.thread, ((t.call.opSeeing h t.files).run false (h.takeTurns turns p).2).1)],
    ((t.call.opSeeing h t.files).run false (h.takeTurns turns p).2).2) = _
  rw [last]
  rfl

@[simp]
theorem callsOf_concat (i : ι) (turns : List (Turn ι)) (t : Turn ι) :
    callsOf i (turns ++ [t]) = callsOf i turns ++ ofThread i [(t.thread, t.call)] := by
  simp [callsOf]

/-! ## Threads in the middle of their calls -/

/-- A call whose lock was asked for: its body is work, and with the files that it
saw the call amounts to this work. -/
inductive Asked (h : Host) (Visited : FileSystem → Prop) (v : Settings × Option Initialization)
    (outcomes : List Outcome) {β : Type} (body : Op β)
    (next : Except Failure β → Op (List Outcome)) : List Call → Prop
  | mk {call : Call} {rest : List Call} {w : Steps Embedding (Except Failure β)}
      {result : Except Failure β → Outcome} {files : FileSystem} (visited : Visited files)
      (work : body = .ofSteps w) (keeps : w.Keeps Embedding.ground)
      (after : ∀ r, next r = h.makeCalls (outcomes ++ [result r]) rest)
      (turn : ∀ p, p.ground = v →
        (call.opSeeing h files).run false p = (result (w.run p).1, (w.run p).2)) :
      Asked h Visited v outcomes body next (call :: rest)

/-- A call whose body goes on: what is left of it leads from the shared state to
where the call as a whole leads from the state that it found. -/
inductive Under (h : Host) (Visited : FileSystem → Prop) (before shared : Embedding)
    (outcomes : List Outcome) {β : Type} (body : Task Embedding β)
    (next : Except Failure β → Op (List Outcome)) : List Call → Prop
  | mk {call : Call} {rest : List Call} {w : Steps Embedding (Except Failure β)}
      {result : Except Failure β → Outcome} {files : FileSystem} (visited : Visited files)
      (work : body = .doing (.ofSteps w)) (keeps : w.Keeps Embedding.ground)
      (after : ∀ r, next r = h.makeCalls (outcomes ++ [result r]) rest)
      (turn : (call.opSeeing h files).run false before =
        (result (w.run shared).1, (w.run shared).2)) :
      Under h Visited before shared outcomes body next (call :: rest)

/-- What a call amounts to is open, or settled by files that it saw. -/
def Amounts (h : Host) (Visited : FileSystem → Prop) (call : Call)
    (turn : Embedding → Op Reply) : Prop :=
  (turn = fun p => call.opSeeing h p.session.machine.files) ∨
    ∃ files, Visited files ∧ turn = fun _ => call.opSeeing h files

theorem Amounts.mono {h : Host} {Visited Later : FileSystem → Prop} {call : Call}
    {turn : Embedding → Op Reply} (amounts : Amounts h Visited call turn)
    (grows : ∀ f, Visited f → Later f) : Amounts h Later call turn :=
  amounts.imp_right fun ⟨files, visited, eq⟩ => ⟨files, grows files visited, eq⟩

/-- If the call looks now, it is settled by files that it sees or saw. -/
theorem Amounts.now {h : Host} {Visited : FileSystem → Prop} {call : Call}
    {turn : Embedding → Op Reply} (amounts : Amounts h Visited call turn) {q : Embedding}
    (visited : Visited q.session.machine.files) :
    ∃ files, Visited files ∧ turn q = call.opSeeing h files := by
  rcases amounts with rfl | ⟨files, visited, rfl⟩
  · exact ⟨_, visited, rfl⟩
  · exact ⟨files, visited, rfl⟩

/-- A call on the way to its lock. -/
inductive Preparing (h : Host) (Visited : FileSystem → Prop)
    (v : Settings × Option Initialization) (outcomes : List Outcome)
    (a : Op (List Outcome)) : List Call → Prop
  | mk {call : Call} {rest : List Call} {b : Op Reply} {turn : Embedding → Op Reply}
      (way : a = b.andThen fun r => h.makeCalls (outcomes ++ [r]) rest)
      (under : ∀ r, b ≠ .ends r) (prepares : Activity.Prepares Embedding.ground v b turn)
      (amounts : Amounts h Visited call turn) :
      Preparing h Visited v outcomes a (call :: rest)

/-- Where a thread is that has taken some turns and has calls left. -/
def Place (h : Host) (Visited : FileSystem → Prop) (v : Settings × Option Initialization)
    (before shared : Embedding) (outcomes : List Outcome) (rest : List Call) :
    Task Embedding (List Outcome) → Prop
  | .doing a => a = h.makeCalls outcomes rest ∨ Preparing h Visited v outcomes a rest
  | .waits _ body next | .took _ body next => Asked h Visited v outcomes body next rest
  | .inside _ body next => Under h Visited before shared outcomes body next rest
  | .cleared _ r next => next r = h.makeCalls outcomes rest

/-- The threads came to where they are by the turns that were taken, and by what
the calls did that are under way. -/
structure Serialized (h : Host) (calls : ι → List Call) (p : Embedding)
    (Visited : FileSystem → Prop) (c : Threads ι Embedding (List Outcome))
    (turns : List (Turn ι)) : Prop where
  kept : c.Kept
  visited : ∀ t ∈ turns, Visited t.files
  ground : (h.takeTurns turns p).2.ground = p.ground
  shared : c.shared.ground = p.ground
  places : ∀ i, ∃ rest, calls i = callsOf i turns ++ rest ∧
    Place h Visited p.ground (h.takeTurns turns p).2 c.shared
      (ofThread i (h.takeTurns turns p).1) rest (c.tasks i)
  /-- Nobody has changed anything since the last turn but a body that goes on. -/
  settled : (∀ i, ¬(c.tasks i).Inside) → c.shared = (h.takeTurns turns p).2

end Turns

/-! ## Steps -/

section Steps

variable {ι : Type} [DecidableEq ι] {h : Host} {calls : ι → List Call} {p : Embedding}
  {Visited Later : FileSystem → Prop} {c : Threads ι Embedding (List Outcome)}
  {turns : List (Turn ι)}

/-- A place stays one when more files were visited, as long as nothing happens
to the states of a body that goes on. -/
theorem Place.mono {v : Settings × Option Initialization} {before shared before' shared' : Embedding}
    {outcomes : List Outcome} {rest : List Call} {t : Task Embedding (List Outcome)}
    (grows : ∀ f, Visited f → Later f)
    (same : ¬t.Inside ∨ (before' = before ∧ shared' = shared))
    (place : Place h Visited v before shared outcomes rest t) :
    Place h Later v before' shared' outcomes rest t := by
  cases t with
  | doing a =>
    rcases place with rfl | ⟨way, under, prepares, amounts⟩
    · exact .inl rfl
    · exact .inr (.mk way under prepares (amounts.mono grows))
  | waits purpose body next =>
    obtain ⟨visited, work, keeps, after, turn⟩ := place
    exact .mk (grows _ visited) work keeps after turn
  | took purpose body next =>
    obtain ⟨visited, work, keeps, after, turn⟩ := place
    exact .mk (grows _ visited) work keeps after turn
  | inside purpose body next =>
    obtain ⟨rfl, rfl⟩ := same.resolve_left fun outside => outside trivial
    obtain ⟨visited, work, keeps, after, turn⟩ := place
    exact .mk (grows _ visited) work keeps after turn
  | cleared purpose r next => exact place

/-- A thread took a step and came to its place, with the turns that were taken by
then.  Bodies of other threads go on only if nothing happened to their states. -/
private theorem Serialized.set (s : Serialized h calls p Visited c turns)
    {turns' : List (Turn ι)} {i : ι} {t : Task Embedding (List Outcome)} {v : View ι Embedding}
    (grows : ∀ f, Visited f → Later f) (kept : (c.set i t v).Kept)
    (visited : ∀ t ∈ turns', Later t.files)
    (ground : (h.takeTurns turns' p).2.ground = p.ground) (shared : v.shared.ground = p.ground)
    (calls' : ∀ j, j ≠ i → callsOf j turns' = callsOf j turns)
    (outcomes' : ∀ j, j ≠ i →
      ofThread j (h.takeTurns turns' p).1 = ofThread j (h.takeTurns turns p).1)
    (others : ∀ j, j ≠ i → ¬(c.tasks j).Inside ∨
      ((h.takeTurns turns' p).2 = (h.takeTurns turns p).2 ∧ v.shared = c.shared))
    (place : ∃ rest, calls i = callsOf i turns' ++ rest ∧
      Place h Later p.ground (h.takeTurns turns' p).2 v.shared
        (ofThread i (h.takeTurns turns' p).1) rest t)
    (settled : (∀ j, ¬((c.set i t v).tasks j).Inside) →
      v.shared = (h.takeTurns turns' p).2) :
    Serialized h calls p Later (c.set i t v) turns' where
  kept := kept
  visited := visited
  ground := ground
  shared := shared
  places j := by
    by_cases hj : j = i
    · subst hj
      rw [Threads.set_tasks_self]
      exact place
    · obtain ⟨rest, all, old⟩ := s.places j
      rw [Threads.set_tasks_of_ne c hj, calls' j hj, outcomes' j hj]
      exact ⟨rest, all, old.mono grows (others j hj)⟩
  settled := settled

theorem Serialized.settled_of_set (s : Serialized h calls p Visited c turns) {i : ι}
    {t : Task Embedding (List Outcome)} {v : View ι Embedding} (outside : ¬(c.tasks i).Inside)
    (h' : ∀ j, ¬((c.set i t v).tasks j).Inside) : c.shared = (h.takeTurns turns p).2 :=
  s.settled (Threads.outside_of_set outside h')

/-- While a thread owns the mutex, no other one is in a body. -/
theorem Serialized.alone_inside (s : Serialized h calls p Visited c turns) {i : ι}
    (owned : c.owner = some i) (j : ι) (hj : j ≠ i) : ¬(c.tasks j).Inside := by
  intro inside
  have own := (s.kept.disciplined.inside_owns j inside).2
  rw [owned] at own
  exact hj (Option.some.inj own).symm

/-- A thread took a step that is no turn. -/
theorem Serialized.move (s : Serialized h calls p Visited c turns) {i : ι}
    {t : Task Embedding (List Outcome)} {v : View ι Embedding}
    (grows : ∀ f, Visited f → Later f) (kept : (c.set i t v).Kept)
    (shared : v.shared.ground = p.ground)
    (others : ∀ j, j ≠ i → ¬(c.tasks j).Inside ∨ v.shared = c.shared)
    (place : ∃ rest, calls i = callsOf i turns ++ rest ∧
      Place h Later p.ground (h.takeTurns turns p).2 v.shared
        (ofThread i (h.takeTurns turns p).1) rest t)
    (settled : (∀ j, ¬((c.set i t v).tasks j).Inside) → v.shared = (h.takeTurns turns p).2) :
    Serialized h calls p Later (c.set i t v) turns :=
  s.set grows kept (fun t ht => grows _ (s.visited t ht)) s.ground shared (fun _ _ => rfl)
    (fun _ _ => rfl) (fun j hj => (others j hj).imp_right fun same => ⟨rfl, same⟩) place settled

/-- A thread took a step that is the turn of its call. -/
theorem Serialized.take (s : Serialized h calls p Visited c turns) {i : ι}
    {t : Task Embedding (List Outcome)} {v : View ι Embedding} {call : Call} {rest : List Call}
    {files : FileSystem} {r : Outcome} {q : Embedding}
    (grows : ∀ f, Visited f → Later f) (kept : (c.set i t v).Kept)
    (all : calls i = callsOf i turns ++ call :: rest) (visited : Later files)
    (turn : (call.opSeeing h files).run false (h.takeTurns turns p).2 = (r, q))
    (ground : q.ground = p.ground) (shared : v.shared.ground = p.ground)
    (others : ∀ j, j ≠ i → ¬(c.tasks j).Inside ∨
      (q = (h.takeTurns turns p).2 ∧ v.shared = c.shared))
    (place : Place h Later p.ground q v.shared (ofThread i (h.takeTurns turns p).1 ++ [r]) rest t)
    (settled : (∀ j, ¬((c.set i t v).tasks j).Inside) → v.shared = q) :
    ∃ turns', Serialized h calls p Later (c.set i t v) turns' := by
  have taken := takeTurns_concat h turns ⟨i, call, files⟩ p turn
  refine ⟨turns ++ [⟨i, call, files⟩], s.set grows kept ?_ ?_ shared ?_ ?_ ?_ ?_ ?_⟩
  · intro u hu
    rcases List.mem_append.mp hu with old | new
    · exact grows _ (s.visited u old)
    · rw [List.mem_singleton.mp new]
      exact visited
  · rw [taken]
    exact ground
  · intro j hj
    rw [callsOf_concat, ofThread_of_ne hj.symm, List.append_nil]
  · intro j hj
    rw [taken, ofThread_append, ofThread_of_ne hj.symm, List.append_nil]
  · rw [taken]
    exact others
  · refine ⟨rest, ?_, ?_⟩
    · rw [callsOf_concat, ofThread_self, all, List.append_assoc]
      rfl
    · rw [taken, ofThread_append, ofThread_self]
      exact place
  · rw [taken]
    exact settled

/-- A thread came to an activity on the way to the lock.  If it is an end already,
the call has taken its turn. -/
theorem Serialized.arrive (s : Serialized h calls p Visited c turns) {i : ι} {call : Call}
    {rest : List Call} {b : Op Reply} {turn : Embedding → Op Reply} {marked : Bool}
    {owner : Option ι} (grows : ∀ f, Visited f → Later f)
    (now : Later c.shared.session.machine.files)
    (outside : ¬(c.tasks i).Inside)
    (kept : (c.set i (.doing (b.andThen fun r =>
      h.makeCalls (ofThread i (h.takeTurns turns p).1 ++ [r]) rest))
      ⟨marked, owner, c.shared⟩).Kept)
    (all : calls i = callsOf i turns ++ call :: rest)
    (prepares : Activity.Prepares Embedding.ground p.ground b turn)
    (amounts : Amounts h Later call turn) :
    ∃ turns', Serialized h calls p Later (c.set i (.doing (b.andThen fun r =>
      h.makeCalls (ofThread i (h.takeTurns turns p).1 ++ [r]) rest))
      ⟨marked, owner, c.shared⟩) turns' := by
  have settled := fun t (v : View ι Embedding) => s.settled_of_set (t := t) (v := v) outside
  by_cases ended : ∃ r, b = .ends r
  · obtain ⟨r, rfl⟩ := ended
    obtain ⟨files, visited, same⟩ := amounts.now now
    obtain ⟨runs⟩ := prepares
    have taken := runs c.shared _ s.shared s.ground
    rw [same] at taken
    exact s.take grows kept all visited taken s.ground s.shared (fun _ _ => .inr ⟨rfl, rfl⟩)
      (.inl rfl) (settled _ _)
  · have under : ∀ r, b ≠ .ends r := fun r hr => ended ⟨r, hr⟩
    exact ⟨turns, s.move grows kept s.shared (fun _ _ => .inr rfl)
      ⟨_, all, .inr (.mk rfl under prepares amounts)⟩ (settled _ _)⟩

/-- A thread took a step outside of the lock: it starts a call, or goes on
preparing one. -/
private theorem Serialized.outside {t : Settings} {n : Initialization} (silent : t.IsSilent)
    (ground : p.ground = (t, some n)) (s : Serialized h calls p Visited c turns) {i : ι}
    {change : Embedding → Embedding} {next : Embedding → Op (List Outcome)}
    (grows : ∀ f, Visited f → Later f) (now : Later c.shared.session.machine.files)
    (task : c.tasks i = .doing (.step change next))
    (kept : (c.set i (.doing (next c.shared)) ⟨false, c.owner, change c.shared⟩).Kept) :
    ∃ turns', Serialized h calls p Later
      (c.set i (.doing (next c.shared)) ⟨false, c.owner, change c.shared⟩) turns' := by
  obtain ⟨rest, all, place⟩ := s.places i
  have outside : ¬(c.tasks i).Inside := by rw [task]; exact id
  rw [task] at place
  rcases place with own | ⟨way, under, prepares, amounts⟩
  · cases rest with
    | nil => cases own
    | cons call rest =>
      obtain ⟨rfl, rfl⟩ := Activity.step.inj own
      have call_prepares := Call.prepares silent n h call
      rw [← ground] at call_prepares
      exact s.arrive grows now outside kept all call_prepares (.inl rfl)
  · rename_i call rest b turn
    cases b with
    | ends r => exact absurd rfl (under r)
    | guarded purpose body k => cases way
    | step change k =>
      obtain ⟨rfl, rfl⟩ := Activity.step.inj way
      obtain ⟨still, turn', prepares', same⟩ := prepares.of_step s.shared
      rw [still] at kept ⊢
      refine s.arrive grows now outside kept all prepares' ?_
      have later := amounts.mono grows
      rcases same with rfl | rfl
      · exact later
      · obtain ⟨files, visited, eq⟩ := later.now now
        exact .inr ⟨files, visited, by rw [eq]⟩

/-- A thread asked for the lock: what its call amounts to is settled. -/
private theorem Serialized.asks (s : Serialized h calls p Visited c turns) {i : ι} {β : Type}
    {purpose : Purpose} {body : Op β} {next : Except Failure β → Op (List Outcome)}
    (grows : ∀ f, Visited f → Later f) (now : Later c.shared.session.machine.files)
    (task : c.tasks i = .doing (.guarded purpose body next))
    (kept : (c.set i (.waits purpose body next) ⟨false, c.owner, c.shared⟩).Kept) :
    Serialized h calls p Later (c.set i (.waits purpose body next) ⟨false, c.owner, c.shared⟩)
      turns := by
  obtain ⟨rest, all, place⟩ := s.places i
  have outside : ¬(c.tasks i).Inside := by rw [task]; exact id
  rw [task] at place
  rcases place with own | ⟨way, under, prepares, amounts⟩
  · cases rest <;> cases own
  · rename_i call rest b turn
    cases b with
    | ends r => exact absurd rfl (under r)
    | step change k => cases way
    | guarded purpose body k =>
      cases way
      cases prepares with
      | locks keeps after same =>
        obtain ⟨files, visited, eq⟩ := (amounts.mono grows).now now
        have turn_now := fun q hq => same c.shared q s.shared hq
        rw [eq] at turn_now
        have asked : Asked h Later p.ground (ofThread i (h.takeTurns turns p).1) _
            (fun r => (k r).andThen fun r =>
              h.makeCalls (ofThread i (h.takeTurns turns p).1 ++ [r]) rest) (call :: rest) :=
          .mk visited rfl keeps (fun r => by rw [after r]; rfl) turn_now
        exact s.move grows kept s.shared (fun _ _ => .inr rfl) ⟨_, all, asked⟩
          (s.settled_of_set outside)

/-- A thread that got the lock starts its body where the turns have led. -/
private theorem Serialized.enters (s : Serialized h calls p Visited c turns) {i : ι} {β : Type}
    {purpose : Purpose} {body : Op β} {next : Except Failure β → Op (List Outcome)}
    (grows : ∀ f, Visited f → Later f) (task : c.tasks i = .took purpose body next)
    (owned : c.owner = some i)
    (kept : (c.set i (.inside purpose (.doing body) next) ⟨true, some i, c.shared⟩).Kept) :
    Serialized h calls p Later
      (c.set i (.inside purpose (.doing body) next) ⟨true, some i, c.shared⟩) turns := by
  obtain ⟨rest, all, place⟩ := s.places i
  -- The owner of the mutex is not in a body yet, and nobody else can be in one.
  have alone : ∀ j, ¬(c.tasks j).Inside := fun j inside => by
    by_cases own : j = i
    · subst own
      rw [task] at inside
      exact inside
    · exact s.alone_inside owned j own inside
  rw [task] at place
  obtain ⟨visited, work, keeps, after, turn⟩ := place
  refine s.move grows kept s.shared (fun _ _ => .inr rfl) ⟨_, all, ?_⟩ fun _ => s.settled alone
  refine .mk (grows _ visited) (by rw [work]) keeps after ?_
  rw [turn _ s.ground, s.settled alone]

/-- A thread went on in its body, which leads to where it led before. -/
private theorem Serialized.goesOn (s : Serialized h calls p Visited c turns) {i : ι} {β : Type}
    {purpose : Purpose} {change : Embedding → Embedding} {body : Embedding → Op β}
    {next : Except Failure β → Op (List Outcome)} (grows : ∀ f, Visited f → Later f)
    (task : c.tasks i = .inside purpose (.doing (.step change body)) next)
    (owned : c.owner = some i)
    (kept : (c.set i (.inside purpose (.doing (body c.shared)) next)
      ⟨true, some i, change c.shared⟩).Kept) :
    Serialized h calls p Later (c.set i (.inside purpose (.doing (body c.shared)) next)
      ⟨true, some i, change c.shared⟩) turns := by
  obtain ⟨rest, all, place⟩ := s.places i
  have others := s.alone_inside owned
  rw [task] at place
  obtain ⟨visited, work, keeps, after, turn⟩ := place
  rename_i call rest w result files
  cases w with
  | done r => cases work
  | step change k =>
    obtain ⟨rfl, rfl⟩ := Activity.step.inj (Task.doing.inj work)
    cases keeps with
    | step still keeps' =>
      refine s.move grows kept ((still _).trans s.shared) (fun j hj => .inl (others j hj))
        ⟨_, all, .mk (grows _ visited) rfl (keeps' _) after turn⟩ fun none_inside => ?_
      have inside := none_inside i
      rw [Threads.set_tasks_self] at inside
      exact absurd trivial inside

/-- A thread left its body: its call has taken its turn. -/
private theorem Serialized.leaves (s : Serialized h calls p Visited c turns) {i : ι} {β : Type}
    {purpose : Purpose} {r : Except Failure β} {next : Except Failure β → Op (List Outcome)}
    (grows : ∀ f, Visited f → Later f)
    (task : c.tasks i = .inside purpose (.doing (.ends r)) next) (owned : c.owner = some i)
    (kept : (c.set i (.cleared purpose r next) ⟨false, some i, c.shared⟩).Kept) :
    ∃ turns', Serialized h calls p Later
      (c.set i (.cleared purpose r next) ⟨false, some i, c.shared⟩) turns' := by
  obtain ⟨rest, all, place⟩ := s.places i
  have others := s.alone_inside owned
  rw [task] at place
  obtain ⟨visited, work, keeps, after, turn⟩ := place
  rename_i call rest w result files
  cases w with
  | step change k => cases work
  | done r =>
    obtain rfl := Activity.ends.inj (Task.doing.inj work)
    exact s.take grows kept all (grows _ visited) turn s.shared s.shared
      (fun j hj => .inl (others j hj)) (after _) fun _ => rfl

/-- Every step of threads that came to where they are by turns is again by
turns. -/
theorem Serialized.step {t : Settings} {n : Initialization} (silent : t.IsSilent)
    (ground : p.ground = (t, some n)) (s : Serialized h calls p Visited c turns) {i : ι}
    {e : Event} {d : Threads ι Embedding (List Outcome)} (step : c.step i = some (e, d))
    (grows : ∀ f, Visited f → Later f) (now : Later c.shared.session.machine.files) :
    ∃ turns', Serialized h calls p Later d turns' := by
  have moves := Threads.moves_of_step s.kept step
  have kept := moves.kept s.kept
  obtain ⟨rest, all, place⟩ := s.places i
  cases moves with
  | outside task => exact s.outside silent ground grows now task kept
  | asks task => exact ⟨turns, s.asks grows now task kept⟩
  | takes task free =>
    have outside : ¬(c.tasks i).Inside := by rw [task]; exact id
    rw [task] at place
    obtain ⟨visited, work, keeps, after, turn⟩ := place
    exact ⟨turns, s.move grows kept s.shared (fun _ _ => .inr rfl)
      ⟨_, all, .mk (grows _ visited) work keeps after turn⟩ (s.settled_of_set outside)⟩
  | enters task owned => exact ⟨turns, s.enters grows task owned kept⟩
  | inside task owned => exact ⟨turns, s.goesOn grows task owned kept⟩
  | refused task owned =>
    -- No body of a call asks for the lock.
    rw [task] at place
    obtain ⟨visited, work, keeps, after, turn⟩ := place
    rename_i call rest w result files
    cases w <;> cases work
  | leaves task owned => exact s.leaves grows task owned kept
  | releases task owned =>
    have outside : ¬(c.tasks i).Inside := by rw [task]; exact id
    rw [task] at place
    exact ⟨turns, s.move grows kept s.shared (fun _ _ => .inr rfl) ⟨_, all, .inl place⟩
      (s.settled_of_set outside)⟩

end Steps

end EmbeddedPython
