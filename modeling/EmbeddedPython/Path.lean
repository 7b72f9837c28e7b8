import EmbeddedPython.Text.Octets
import EmbeddedPython.Text.Quoted

/-!
# Paths

A path is an octet string that slashes cut into segments.  No operation
here looks at a file system, and none rewrites a path: `join` puts two
paths together as they are written, and `parent?` keeps every octet in
front of the last component.

Two views carry the operations.

* `Path.segments` is the lossless cut at the slashes.
* `Path.components` is what a path names: repeated slashes and `.`
  segments count for nothing there, except that a leading slash is the
  root and a leading `.` is a component.
-/

namespace EmbeddedPython

/-- A path. -/
structure Path where
  octets : Octets
deriving Repr, DecidableEq, Inhabited

namespace Path

/-- The octet between segments. -/
def slash : UInt8 := 0x2F

/-- The octet that makes up `.` and `..`, and that cuts a file name into
stem and extension. -/
def dot : UInt8 := 0x2E

/-- The path that a text writes. -/
def ofText (s : String) : Path :=
  ⟨Octets.ofText s⟩

/-- The text that shows a path. -/
def display (p : Path) : String :=
  Octets.lossy p.octets

/-- The text that shows a path between quotes. -/
def quoted (p : Path) : String :=
  Quoted.octets p.octets

/-! ## Segments -/

/-- The stretches between the separators of an octet string. -/
def splitAt (separator : UInt8) : Octets → List Octets
  | [] => [[]]
  | b :: rest =>
    match splitAt separator rest with
    | [] => [[b]]
    | first :: more =>
      if b = separator then [] :: first :: more else (b :: first) :: more

/-- The stretches with separators between them. -/
def joinWith (separator : UInt8) : List Octets → Octets
  | [] => []
  | [last] => last
  | first :: more => first ++ separator :: joinWith separator more

theorem splitAt_ne_nil (separator : UInt8) (octets : Octets) :
    splitAt separator octets ≠ [] := by
  cases octets with
  | nil => exact List.cons_ne_nil _ _
  | cons b rest =>
    rw [splitAt]
    split
    · exact List.cons_ne_nil _ _
    · split <;> exact List.cons_ne_nil _ _

/-- An octet in front of the first stretch stands in front of the whole. -/
theorem joinWith_cons_head (separator b : UInt8) (first : Octets) (more : List Octets) :
    joinWith separator ((b :: first) :: more) = b :: joinWith separator (first :: more) := by
  cases more with
  | nil => rfl
  | cons next more => rfl

/-- Nothing is lost in a cut. -/
theorem joinWith_splitAt (separator : UInt8) (octets : Octets) :
    joinWith separator (splitAt separator octets) = octets := by
  induction octets with
  | nil => rfl
  | cons b rest ih =>
    rw [splitAt]
    split
    · next h => exact absurd h (splitAt_ne_nil separator rest)
    · next first more h =>
      rw [h] at ih
      split
      · next hb =>
        show separator :: joinWith separator (first :: more) = b :: rest
        rw [ih, hb]
      · rw [joinWith_cons_head, ih]

/-- The segments of a path. -/
def segments (p : Path) : List Octets :=
  splitAt slash p.octets

/-- A path that starts at the root. -/
def isAbsolute (p : Path) : Bool :=
  p.octets.head? == some slash

/-! ## Components -/

/-- What a segment of a path names. -/
inductive Component where
  /-- The root of the file system. -/
  | root
  /-- The directory itself, at the start of a path. -/
  | current
  /-- The directory above. -/
  | above
  /-- An entry of the directory. -/
  | name (octets : Octets)
deriving Repr, DecidableEq

/-- A segment that names nothing. -/
def isIdle (segment : Octets) : Bool :=
  segment.isEmpty || segment == [dot]

/-- What a segment names that is not the first one. -/
def component? (segment : Octets) : Option Component :=
  if isIdle segment then none
  else if segment = [dot, dot] then some .above
  else some (.name segment)

/-- What the first segment of a path names.  `alone` says that no other
segment follows. -/
def firstComponent? (segment : Octets) (alone : Bool) : Option Component :=
  if segment.isEmpty then (if alone then none else some .root)
  else if segment = [dot] then some .current
  else component? segment

/-- The components of a path. -/
def components (p : Path) : List Component :=
  match p.segments with
  | [] => []
  | first :: more =>
    (firstComponent? first more.isEmpty).toList ++ more.filterMap component?

/-! ## Putting together and taking apart -/

/-- `p / q`: an absolute `q` replaces `p`, and one slash is added unless `p`
is empty or ends in one. -/
def join (p q : Path) : Path :=
  if q.isAbsolute then q
  else if p.octets.isEmpty || p.octets.getLast? == some slash then
    ⟨p.octets ++ q.octets⟩
  else ⟨p.octets ++ slash :: q.octets⟩

instance : HDiv Path Path Path := ⟨join⟩

/-- A path followed by the path that a text writes. -/
instance : HDiv Path String Path := ⟨fun p s => p.join (ofText s)⟩

/-- The last component, if it is the name of an entry. -/
def fileName? (p : Path) : Option Octets :=
  match p.components.getLast? with
  | some (.name octets) => some octets
  | _ => none

/-- Segments without the idle ones at the end.  The first segment stays. -/
def dropIdleEnd : List Octets → List Octets
  | [] => []
  | first :: more => first :: (more.reverse.dropWhile isIdle).reverse

/-- The path of some segments, the first of which stands for the root when
it is empty. -/
def ofSegments (absolute : Bool) (segs : List Octets) : Path :=
  if absolute && segs.length ≤ 1 then ⟨[slash]⟩ else ⟨joinWith slash segs⟩

/-- The path in front of the last component.  The root and the empty path
have none. -/
def parent? (p : Path) : Option Path :=
  match p.components.getLast? with
  | none => none
  | some .root => none
  | some _ =>
    some (ofSegments p.isAbsolute (dropIdleEnd (dropIdleEnd p.segments).dropLast))

/-! ## File names -/

/-- A file name cut at its last dot.  A name that is `..`, or that has its
only dot at the start, is all stem. -/
def cutName (name : Octets) : Octets × Option Octets :=
  if name = [dot, dot] then (name, none)
  else
    let parts := splitAt dot name
    let stem := joinWith dot parts.dropLast
    if parts.length ≤ 1 || stem.isEmpty then (name, none)
    else (stem, parts.getLast?)

/-- The part of the file name in front of its last dot. -/
def stem? (p : Path) : Option Octets :=
  p.fileName?.map fun name => (cutName name).1

/-- The part of the file name behind its last dot. -/
def extension? (p : Path) : Option Octets :=
  p.fileName?.bind fun name => (cutName name).2

end Path

end EmbeddedPython
