import EmbeddedPython.Text.Numeral

/-!
# Strings of TOML documents

A string is written in one of four styles.  `Style.choose` takes the first
of a fixed order that can hold the text as it is, and falls back to a style
with escapes.  `Style.write` writes a text in a style.

A basic style resolves escapes, a literal one has none.  A long style may
hold line ends, and skips one right behind its opening quotes.
-/

namespace EmbeddedPython.Toml

/-- A style of strings. -/
inductive Style where
  | basic
  | literal
  | longBasic
  | longLiteral
deriving Repr, DecidableEq

/-- A double quote and a single quote. -/
def doubleQuote : Char := '\x22'

@[inherit_doc doubleQuote]
def singleQuote : Char := '\x27'

/-- A control character that only an escape can write.  Tabs and line ends
are none. -/
def isControl (c : Char) : Bool :=
  c != '\t' && c != '\n' && (c.toNat < 0x20 || c.toNat == 0x7F)

/-- The length of the longest row of a character, behind `run` of them. -/
def longestRunFrom (c : Char) : Nat → List Char → Nat
  | run, [] => run
  | run, d :: rest =>
    if d = c then longestRunFrom c (run + 1) rest else max run (longestRunFrom c 0 rest)

/-- The length of the longest row of a character. -/
def longestRun (c : Char) (cs : List Char) : Nat :=
  longestRunFrom c 0 cs

namespace Style

/-- A text that a style holds without any escape that a reader would have
to resolve.  A tab is no obstacle. -/
def holds (style : Style) (cs : List Char) : Bool :=
  !cs.any isControl &&
    match style with
    | basic => !cs.contains '\\' && !cs.contains doubleQuote && !cs.contains '\n'
    | literal => !cs.contains singleQuote && !cs.contains '\n'
    | longBasic => !cs.contains '\\' && longestRun doubleQuote cs ≤ 2
    | longLiteral => longestRun singleQuote cs ≤ 2

/-- The style of a text. -/
def choose (cs : List Char) : Style :=
  match [basic, literal, longBasic, longLiteral].find? (·.holds cs) with
  | some style => style
  | none => if cs.contains '\n' then longBasic else basic

/-- A long style. -/
def isLong : Style → Bool
  | longBasic | longLiteral => true
  | basic | literal => false

/-- A style with escapes. -/
def hasEscapes : Style → Bool
  | basic | longBasic => true
  | literal | longLiteral => false

/-- The quotes at both ends. -/
def quotes : Style → List Char
  | basic => [doubleQuote]
  | literal => [singleQuote]
  | longBasic => List.replicate 3 doubleQuote
  | longLiteral => List.replicate 3 singleQuote

/-- The row of double quotes that may stand inside. -/
def quotesInside (style : Style) : Nat :=
  if style.isLong then 2 else 0

/-- The escape of a character by its number. -/
def numbered (c : Char) : List Char :=
  ['\\', 'u'] ++ (Numeral.padded 4 (Numeral.hexadecimal c.toNat)).map Char.toUpper

/-- A character other than a double quote in a style with escapes. -/
def escaped (style : Style) (c : Char) : List Char :=
  if c = '\\' then ['\\', '\\']
  else if c = '\t' then ['\\', 't']
  else if c = '\n' then (if style.isLong then [c] else ['\\', 'n'])
  else if c = '\r' then ['\\', 'r']
  else if c = '\x08' then ['\\', 'b']
  else if c = '\x0c' then ['\\', 'f']
  else if isControl c then numbered c
  else [c]

/-- Characters in a style with escapes, behind `run` double quotes. -/
def escapeFrom (style : Style) : Nat → List Char → List Char
  | _, [] => []
  | run, c :: rest =>
    if c = doubleQuote then
      if run < style.quotesInside then c :: escapeFrom style (run + 1) rest
      else ['\\', c] ++ escapeFrom style 0 rest
    else style.escaped c ++ escapeFrom style 0 rest

/-- The characters between the quotes.  A long string that holds a line end
begins on a line of its own. -/
def body (style : Style) (cs : List Char) : List Char :=
  (if style.isLong && cs.contains '\n' then ['\n'] else [])
    ++ if style.hasEscapes then style.escapeFrom 0 cs else cs

/-- A text in a style. -/
def write (style : Style) (cs : List Char) : List Char :=
  style.quotes ++ style.body cs ++ style.quotes

end Style

/-- A text as a string of a document. -/
def writeString (cs : List Char) : List Char :=
  (Style.choose cs).write cs

end EmbeddedPython.Toml
