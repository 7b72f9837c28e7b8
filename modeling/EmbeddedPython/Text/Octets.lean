/-!
# Octet strings

File names, environment values and file contents are strings of octets.
Most of them are UTF-8 text, and all of them are shown to people as text.
This module holds the two directions.

* `Octets.ofText` encodes a text.
* `Octets.chunks` cuts any octet string into characters and malformed
  stretches.  A stretch is a maximal start of a well-formed sequence, so
  an octet that cannot continue a sequence begins a chunk of its own.
* `Octets.lossy` and `Octets.text?` are two readings of the chunks: one
  replaces each malformed stretch, the other refuses it.
-/

namespace EmbeddedPython

/-- A string of octets. -/
abbrev Octets := List UInt8

namespace Octets

/-! ## Writing -/

/-- The UTF-8 form of one character. -/
def encodeChar (c : Char) : Octets :=
  let n := c.toNat
  if n < 0x80 then [n.toUInt8]
  else if n < 0x800 then
    [(0xC0 + n / 0x40).toUInt8, (0x80 + n % 0x40).toUInt8]
  else if n < 0x10000 then
    [(0xE0 + n / 0x1000).toUInt8, (0x80 + n / 0x40 % 0x40).toUInt8,
      (0x80 + n % 0x40).toUInt8]
  else
    [(0xF0 + n / 0x40000).toUInt8, (0x80 + n / 0x1000 % 0x40).toUInt8,
      (0x80 + n / 0x40 % 0x40).toUInt8, (0x80 + n % 0x40).toUInt8]

/-- The UTF-8 form of a text. -/
def ofText (s : String) : Octets :=
  s.toList.flatMap encodeChar

/-! ## Reading -/

/-- A piece of an octet string: a character, or a stretch that is part of
no character. -/
inductive Chunk where
  | scalar (c : Char)
  | malformed (octets : Octets)
deriving Repr, DecidableEq

/-- A continuation octet. -/
def isContinuation (b : UInt8) : Bool :=
  0x80 ≤ b && b ≤ 0xBF

/-- The octets that may follow a first octet of a sequence of three or
four.  The bounds keep out overlong forms, surrogates and values above
the last code point. -/
def isSecond (first second : UInt8) : Bool :=
  if first = 0xE0 then 0xA0 ≤ second && second ≤ 0xBF
  else if first = 0xED then 0x80 ≤ second && second ≤ 0x9F
  else if first = 0xF0 then 0x90 ≤ second && second ≤ 0xBF
  else if first = 0xF4 then 0x80 ≤ second && second ≤ 0x8F
  else isContinuation second

/-- The payload of a continuation octet. -/
def low (b : UInt8) : Nat := b.toNat % 0x40

/-- The first chunk of `first :: rest`, and how many octets of `rest` it
takes. -/
def nextChunk (first : UInt8) (rest : Octets) : Chunk × Nat :=
  if first < 0x80 then (.scalar (Char.ofNat first.toNat), 0)
  else if 0xC2 ≤ first && first ≤ 0xDF then
    match rest with
    | b :: _ =>
      if isContinuation b then
        (.scalar (Char.ofNat (first.toNat % 0x20 * 0x40 + low b)), 1)
      else (.malformed [first], 0)
    | [] => (.malformed [first], 0)
  else if 0xE0 ≤ first && first ≤ 0xEF then
    match rest with
    | b :: more =>
      if isSecond first b then
        match more with
        | c :: _ =>
          if isContinuation c then
            (.scalar (Char.ofNat
              (first.toNat % 0x10 * 0x1000 + low b * 0x40 + low c)), 2)
          else (.malformed [first, b], 1)
        | [] => (.malformed [first, b], 1)
      else (.malformed [first], 0)
    | [] => (.malformed [first], 0)
  else if 0xF0 ≤ first && first ≤ 0xF4 then
    match rest with
    | b :: more =>
      if isSecond first b then
        match more with
        | c :: last =>
          if isContinuation c then
            match last with
            | d :: _ =>
              if isContinuation d then
                (.scalar (Char.ofNat
                  (first.toNat % 0x08 * 0x40000 + low b * 0x1000 + low c * 0x40
                    + low d)), 3)
              else (.malformed [first, b, c], 2)
            | [] => (.malformed [first, b, c], 2)
          else (.malformed [first, b], 1)
        | [] => (.malformed [first, b], 1)
      else (.malformed [first], 0)
    | [] => (.malformed [first], 0)
  else (.malformed [first], 0)

/-- The chunks of an octet string, in order. -/
def chunks : Octets → List Chunk
  | [] => []
  | first :: rest =>
    let step := nextChunk first rest
    step.1 :: chunks (rest.drop step.2)
termination_by octets => octets.length
decreasing_by simp only [List.length_drop, List.length_cons]; omega

/-- The character that stands for a malformed stretch. -/
def replacement : Char := Char.ofNat 0xFFFD

/-- The character of a chunk, if it has one. -/
def Chunk.scalar? : Chunk → Option Char
  | .scalar c => some c
  | .malformed _ => none

/-- The text of an octet string, with one replacement character for each
malformed stretch. -/
def lossy (octets : Octets) : String :=
  String.ofList ((chunks octets).map fun chunk => chunk.scalar?.getD replacement)

/-- The text of an octet string that is well-formed UTF-8. -/
def text? (octets : Octets) : Option String :=
  ((chunks octets).mapM Chunk.scalar?).map String.ofList

end Octets

end EmbeddedPython
