import EmbeddedPython.Program.Token

/-!
# The encodings of sources

A file of source is UTF-8 unless it says otherwise: a mark at its start, or a
comment in one of its first two lines that names an encoding.  `Encoding.decode`
gives the UTF-8 of such a file.  A file in UTF-8 is left as it is, so what is
malformed in it is only found where it is read.

Of the encodings by which the first 128 characters are themselves,
some are known by name only: of them only those characters are decoded.
-/

namespace EmbeddedPython.Encoding

/-- The mark of a file in UTF-8. -/
def mark : Octets := [0xEF, 0xBB, 0xBF]

/-- An encoding. -/
inductive Code where
  | utf8
  | ascii
  | latin
  | western
  /-- Another one, by which the first 128 characters are themselves. -/
  | foreign
deriving Repr, DecidableEq

/-! ## Names -/

/-- A character of the name of an encoding. -/
def isNamePart (c : Char) : Bool :=
  c.isAlphanum || c == '-' || c == '_' || c == '.'

/-- The word in front of the name of an encoding. -/
def marker : List Char := "coding".toList

/-- The name behind the first marker in a comment. -/
def nameIn : List Char → Option (List Char)
  | [] => none
  | c :: rest =>
    let named : Option (List Char) :=
      if marker.isPrefixOf (c :: rest) then
        match (c :: rest).drop marker.length with
        | d :: after =>
          if d = ':' || d = '=' then
            some ((after.dropWhile fun b => b == ' ' || b == '\t').takeWhile isNamePart)
          else none
        | [] => none
      else none
    match named with
    | some (d :: name) => some (d :: name)
    | _ => nameIn rest

/-- The name of an encoding in a line that holds nothing but a comment. -/
def nameInLine (line : List Char) : Option (List Char) :=
  match line.dropWhile Token.isGap with
  | '#' :: rest => nameIn rest
  | _ => none

/-- A line with nothing in it but a comment. -/
def isIdle (line : List Char) : Bool :=
  match line.dropWhile Token.isGap with
  | [] | '#' :: _ => true
  | _ => false

/-- The name of an encoding in the first two lines.  A line with anything but a
comment in it ends the search. -/
def declaredName (cs : List Char) : Option (List Char) :=
  let first := cs.takeWhile (· != '\n')
  match nameInLine first with
  | some name => some name
  | none =>
    if isIdle first then nameInLine ((cs.drop (first.length + 1)).takeWhile (· != '\n'))
    else none

/-- A name with small letters and hyphens. -/
def plainName (name : List Char) : List Char :=
  name.map fun c => if c = '_' then '-' else c.toLower

/-- A name is another one, or one with something added. -/
def isVariant (name : List Char) (base : String) : Bool :=
  name = base.toList || (base ++ "-").toList.isPrefixOf name

/-- A name as messages have it. -/
def usualName (name : List Char) : String :=
  let plain := plainName (name.take 12)
  if isVariant plain "utf-8" then "utf-8"
  else if ["latin-1", "iso-8859-1", "iso-latin-1"].any (isVariant plain) then "iso-8859-1"
  else String.ofList name

/-- The names of encodings. -/
def names : List (String × Code) :=
  [("utf-8", .utf8), ("utf8", .utf8), ("u8", .utf8), ("utf", .utf8), ("cp65001", .utf8),
   ("utf-8-sig", .utf8), ("ascii", .ascii), ("us-ascii", .ascii), ("646", .ascii),
   ("ansi-x3.4-1968", .ascii), ("ansi-x3-4-1968", .ascii), ("ansi-x3.4-1986", .ascii),
   ("cp367", .ascii), ("csascii", .ascii), ("ibm367", .ascii), ("iso646-us", .ascii),
   ("iso-646.irv-1991", .ascii), ("iso-ir-6", .ascii), ("us", .ascii), ("iso-8859-1", .latin),
   ("latin-1", .latin), ("8859", .latin), ("cp819", .latin), ("csisolatin1", .latin),
   ("ibm819", .latin), ("iso8859", .latin), ("iso8859-1", .latin), ("iso-8859-1-1987", .latin),
   ("iso-ir-100", .latin), ("l1", .latin), ("latin", .latin), ("latin1", .latin),
   ("cp1252", .western), ("1252", .western), ("windows-1252", .western), ("cp437", .foreign),
   ("cp850", .foreign), ("cp852", .foreign), ("cp866", .foreign), ("cp932", .foreign),
   ("cp936", .foreign), ("cp949", .foreign), ("cp950", .foreign), ("cp1250", .foreign),
   ("cp1251", .foreign), ("cp1253", .foreign), ("cp1254", .foreign), ("windows-1250", .foreign),
   ("windows-1251", .foreign), ("windows-1253", .foreign), ("windows-1254", .foreign),
   ("iso-8859-2", .foreign), ("iso-8859-5", .foreign), ("iso-8859-7", .foreign),
   ("iso-8859-9", .foreign), ("iso-8859-15", .foreign), ("iso8859-2", .foreign),
   ("iso8859-15", .foreign), ("latin2", .foreign), ("latin-2", .foreign), ("latin9", .foreign),
   ("latin-9", .foreign), ("koi8-r", .foreign), ("koi8-u", .foreign), ("mac-roman", .foreign),
   ("gbk", .foreign), ("gb2312", .foreign), ("gb18030", .foreign), ("big5", .foreign),
   ("euc-jp", .foreign), ("euc-kr", .foreign), ("shift-jis", .foreign), ("sjis", .foreign),
   ("iso-2022-jp", .foreign), ("tis-620", .foreign)]

/-- The encoding of a name. -/
def ofName? (name : String) : Option Code :=
  names.lookup (String.ofList (plainName name.toList))

/-! ## Decoding -/

/-- The characters of the octets from 0x80 to 0x9F in western texts. -/
def westernSigns : List Nat :=
  [0x20AC, 0, 0x201A, 0x192, 0x201E, 0x2026, 0x2020, 0x2021, 0x2C6, 0x2030, 0x160, 0x2039,
   0x152, 0, 0x17D, 0, 0, 0x2018, 0x2019, 0x201C, 0x201D, 0x2022, 0x2013, 0x2014, 0x2DC,
   0x2122, 0x161, 0x203A, 0x153, 0, 0x17E, 0x178]

/-- The character of an octet, or why it is none. -/
def character (code : Code) (position : Nat) (b : UInt8) : Except DecodeFault Char :=
  let same := Char.ofNat b.toNat
  if b < 0x80 then .ok same
  else
    match code with
    | .ascii => .error ⟨"ascii", b, position, position, "ordinal not in range(128)"⟩
    | .western =>
      if 0xA0 ≤ b then .ok same
      else
        match westernSigns[b.toNat - 0x80]? with
        | some 0 | none =>
          .error ⟨"charmap", b, position, position, "character maps to <undefined>"⟩
        | some n => .ok (Char.ofNat n)
    | .utf8 | .latin | .foreign => .ok same

/-- The octets of a text in an encoding of single octets, as UTF-8. -/
def recode (code : Code) (position : Nat) : Octets → Except DecodeFault Octets
  | [] => .ok []
  | b :: rest => do
    let c ← character code position b
    let more ← recode code (position + 1) rest
    return Octets.encodeChar c ++ more

/-- The source of a file as UTF-8. -/
def decode (octets : Octets) : Except SyntaxFault Octets := do
  let hasMark := mark.isPrefixOf octets
  let octets := if hasMark then octets.drop mark.length else octets
  match declaredName (Token.unifyLines (Token.characters octets)) with
  | none => return octets
  | some name =>
    let said := usualName name
    if hasMark then
      if said = "utf-8" then return octets
      throw (.form ("encoding problem: " ++ said ++ " with BOM"))
    else if said = "utf-8" then return octets
    else
      match ofName? said with
      | none => throw (.form ("unknown encoding: " ++ said))
      | some .utf8 =>
        match Octets.decode octets with
        | .ok _ => return octets
        | .error f => throw (.sourceEncoding f)
      | some code =>
        match recode code 0 octets with
        | .ok decoded => return decoded
        | .error f => throw (.sourceEncoding f)

end EmbeddedPython.Encoding
