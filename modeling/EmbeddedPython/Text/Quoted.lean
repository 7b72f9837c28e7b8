import EmbeddedPython.Text.Numeral
import EmbeddedPython.Text.Octets
import EmbeddedPython.Text.Printable

/-!
# Quoted text

Messages show a text between quotes, in one of two styles.

* `Quoted.double` is the style of the host: double quotes, and a code
  point in braces for a character that cannot be seen.
* `Quoted.single` is the style of the interpreter: single quotes, or
  double quotes around a text that holds a single quote and no double
  one, and code points of two, four or eight digits.

`Quoted.octets` is the first style for octet strings: an octet that is
part of no character is shown by its two digits.
-/

namespace EmbeddedPython.Quoted

open EmbeddedPython.Text

/-- The backslash, the single quote and the double quote. -/
def backslash : Char := '\\'

@[inherit_doc backslash]
def singleQuote : Char := '\x27'

@[inherit_doc backslash]
def doubleQuote : Char := '\x22'

/-- The short escape of a character that has one in every style. -/
def shortEscape? (c : Char) : Option Char :=
  if c = '\t' then some 't'
  else if c = '\r' then some 'r'
  else if c = '\n' then some 'n'
  else if c = backslash then some backslash
  else none

/-! ## The style of the host -/

/-- A character between double quotes. -/
def doubleChar (c : Char) : List Char :=
  match shortEscape? c with
  | some e => [backslash, e]
  | none =>
    if c.toNat = 0 then [backslash, '0']
    else if c = doubleQuote then [backslash, c]
    else if isPrintable c && !isExtender c && !isFiller c then [c]
    else [backslash, 'u', '\x7b'] ++ Numeral.hexadecimal c.toNat ++ ['\x7d']

/-- A text between double quotes. -/
def double (s : String) : String :=
  String.ofList (doubleQuote :: s.toList.flatMap doubleChar ++ [doubleQuote])

/-- An octet that is part of no character. -/
def strayOctet (b : UInt8) : List Char :=
  [backslash, 'x'] ++ (Numeral.octetDigits b).map Char.toUpper

/-- An octet string between double quotes. -/
def octets (o : Octets) : String :=
  let body := (Octets.chunks o).flatMap fun
    | .scalar c => doubleChar c
    | .malformed stray => stray.flatMap strayOctet
  String.ofList (doubleQuote :: body ++ [doubleQuote])

/-! ## The style of the interpreter -/

/-- The quote around a text: double if the text holds single quotes only. -/
def chooseQuote (cs : List Char) : Char :=
  if cs.contains singleQuote && !cs.contains doubleQuote then doubleQuote
  else singleQuote

/-- A character between quotes of the kind `quote`. -/
def singleChar (quote c : Char) : List Char :=
  match shortEscape? c with
  | some e => [backslash, e]
  | none =>
    if c = quote then [backslash, c]
    else if isPrintableInterpreted c then [c]
    else
      let digits := Numeral.hexadecimal c.toNat
      if c.toNat < 0x100 then [backslash, 'x'] ++ Numeral.padded 2 digits
      else if c.toNat < 0x10000 then [backslash, 'u'] ++ Numeral.padded 4 digits
      else [backslash, 'U'] ++ Numeral.padded 8 digits

/-- A text between quotes of the interpreter. -/
def single (s : String) : String :=
  let quote := chooseQuote s.toList
  String.ofList (quote :: s.toList.flatMap (singleChar quote) ++ [quote])

end EmbeddedPython.Quoted
