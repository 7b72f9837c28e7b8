import EmbeddedPython.Text.Numeral
import EmbeddedPython.Text.Octets
import EmbeddedPython.Value

/-!
# Faults of sources

What keeps a source from compiling.  `SyntaxFault.raised` is the exception that
a fault raises: its type tells faults of indentation from all others.
-/

namespace EmbeddedPython

/-- The octets from `first` to `last` of a text are no characters of a code.
`lead` is the first of them. -/
structure DecodeFault where
  code : String
  lead : UInt8
  first : Nat
  last : Nat
  reason : String
deriving Repr, DecidableEq

namespace DecodeFault

/-- What is said about a fault. -/
def message (f : DecodeFault) : String :=
  let place :=
    if f.first = f.last then
      "byte 0x" ++ String.ofList (Numeral.octetDigits f.lead) ++ " in position "
        ++ Numeral.text f.first
    else "bytes in position " ++ Numeral.text f.first ++ "-" ++ Numeral.text f.last
  "'" ++ f.code ++ "' codec can't decode " ++ place ++ ": " ++ f.reason

/-- An octet that no character starts with. -/
def isStray (b : UInt8) : Bool :=
  (0x80 ≤ b && b < 0xC2) || 0xF5 ≤ b

/-- The fault of the first malformed stretch of an octet string, at a position
in front of the chunks that are left. -/
def ofChunks (position : Nat) : List Octets.Chunk → Option DecodeFault
  | [] => none
  | .scalar c :: rest => ofChunks (position + (Octets.encodeChar c).length) rest
  | .malformed octets :: rest =>
    let lead := octets.headD 0
    let reason :=
      if isStray lead then "invalid start byte"
      else if rest.isEmpty then "unexpected end of data"
      else "invalid continuation byte"
    some ⟨"utf-8", lead, position, position + octets.length - 1, reason⟩

end DecodeFault

/-- The text of an octet string, or the fault of the first octets that are
none. -/
def Octets.decode (octets : Octets) : Except DecodeFault String :=
  let chunks := Octets.chunks octets
  match DecodeFault.ofChunks 0 chunks with
  | some fault => .error fault
  | none => .ok (String.ofList (chunks.filterMap Octets.Chunk.scalar?))

/-- Why a source does not compile. -/
inductive SyntaxFault where
  /-- A token that cannot stand where it is. -/
  | invalid
  /-- A form that is told apart from others, in the words of the message. -/
  | form (text : String)
  /-- The source ends inside of a line. -/
  | unexpectedEnd
  /-- A character that cannot be seen. -/
  | invisible (c : Char)
  /-- A character that no name may hold. -/
  | invalidCharacter (c : Char)
  /-- A number that ends in other characters, or has digits of no use. -/
  | number (kind : String)
  /-- A digit that is too large. -/
  | digit (c : Char) (kind : String)
  /-- A text without an end, and the last line that was looked at. -/
  | unterminated (long : Bool) (line : Nat)
  /-- A bracket that is not closed. -/
  | unclosed (opening : Char)
  /-- A bracket that was not opened. -/
  | unmatched (closing : Char)
  /-- A bracket that closes one of another kind, which was opened on a line. -/
  | mismatched (closing opening : Char) (line : Option Nat)
  | unexpectedIndent
  | unexpectedUnindent
  /-- A line that is indented like none of those around it. -/
  | unaligned
  /-- Tabs and blanks that do not tell which line is indented more. -/
  | mixedIndent
  | tooManyIndents
  /-- No block follows what starts one on this line. -/
  | missingBlock (starter : String) (line : Nat)
  /-- Nothing can be bound to a form. -/
  | target (kind : String) (hint : Bool)
  /-- Nothing can be deleted that has a form. -/
  | deleted (kind : String)
  /-- A form that cannot be changed in place. -/
  | updated (kind : String)
  /-- A statement or an expression outside of what it belongs into. -/
  | outside (what whole : String)
  | zero
  /-- Octets that are no text. -/
  | encoding (f : DecodeFault)
  /-- The whole source is not in the code that it names. -/
  | sourceEncoding (f : DecodeFault)
deriving Repr, DecidableEq

namespace SyntaxFault

instance : Inhabited SyntaxFault := ⟨invalid⟩

/-- The digits of a character, as messages write them. -/
def codePoint (c : Char) : String :=
  "U+" ++ String.ofList ((Numeral.padded 4 (Numeral.hexadecimal c.toNat)).map Char.toUpper)

/-- A character between quotes. -/
def inQuotes (c : Char) : String :=
  String.ofList ['\x27', c, '\x27']

/-- What is said about a fault. -/
def message : SyntaxFault → String
  | invalid => "invalid syntax"
  | form text => text
  | unexpectedEnd => "unexpected EOF while parsing"
  | invisible c => "invalid non-printable character " ++ codePoint c
  | invalidCharacter c => "invalid character " ++ inQuotes c ++ " (" ++ codePoint c ++ ")"
  | number kind => "invalid " ++ kind ++ " literal"
  | digit c kind => "invalid digit " ++ inQuotes c ++ " in " ++ kind ++ " literal"
  | unterminated long line =>
    "unterminated " ++ (if long then "triple-quoted " else "")
      ++ "string literal (detected at line " ++ Numeral.text line ++ ")"
  | unclosed opening => inQuotes opening ++ " was never closed"
  | unmatched closing => "unmatched " ++ inQuotes closing
  | mismatched closing opening line =>
    "closing parenthesis " ++ inQuotes closing ++ " does not match opening parenthesis "
      ++ inQuotes opening ++ line.elim "" fun n => " on line " ++ Numeral.text n
  | unexpectedIndent => "unexpected indent"
  | unexpectedUnindent => "unexpected unindent"
  | unaligned => "unindent does not match any outer indentation level"
  | mixedIndent => "inconsistent use of tabs and spaces in indentation"
  | tooManyIndents => "too many levels of indentation"
  | missingBlock starter line =>
    "expected an indented block after " ++ starter ++ " on line " ++ Numeral.text line
  | target kind hint =>
    "cannot assign to " ++ kind
      ++ (if hint then " here. Maybe you meant '==' instead of '='?" else "")
  | deleted kind => "cannot delete " ++ kind
  | updated kind => "'" ++ kind ++ "' is an illegal expression for augmented assignment"
  | outside what whole => "'" ++ what ++ "' outside " ++ whole
  | zero => "source code string cannot contain null bytes"
  | encoding f => "(unicode error) " ++ f.message
  | sourceEncoding f => f.message

/-- The type of the exception that a fault raises. -/
def kind : SyntaxFault → String
  | unexpectedIndent | unexpectedUnindent | unaligned | tooManyIndents | missingBlock _ _ =>
    "IndentationError"
  | mixedIndent => "TabError"
  | zero => "ValueError"
  | _ => "SyntaxError"

/-- The exception that a fault raises. -/
def raised (f : SyntaxFault) : Raised :=
  ⟨f.kind, f.message⟩

end SyntaxFault

end EmbeddedPython
