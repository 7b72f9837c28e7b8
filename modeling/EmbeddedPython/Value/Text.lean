import EmbeddedPython.Double.Text
import EmbeddedPython.Text.Quoted
import EmbeddedPython.Value

/-!
# The text of values

The interpreter shows a value in two ways: `Value.quoted` is how a program
would write it, and `Value.shown` is what it says to people.  Both differ only
for texts and exceptions.  A value that no program can write is shown by its
type.
-/

namespace EmbeddedPython

/-- An octet between single quotes. -/
def Quoted.octetChar (b : UInt8) : List Char :=
  let c := Char.ofNat b.toNat
  match Quoted.shortEscape? c with
  | some e => [Quoted.backslash, e]
  | none =>
    if c = Quoted.singleQuote then [Quoted.backslash, c]
    else if 0x20 ≤ b && b < 0x7F then [c]
    else [Quoted.backslash, 'x'] ++ Numeral.octetDigits b

/-- An octet string as the interpreter writes it. -/
def Quoted.interpretedOctets (o : Octets) : String :=
  let cs := o.map fun b => Char.ofNat b.toNat
  if Quoted.chooseQuote cs = Quoted.singleQuote then
    String.ofList ('b' :: Quoted.singleQuote :: o.flatMap Quoted.octetChar
      ++ [Quoted.singleQuote])
  else
    let body := o.flatMap fun b =>
      if Char.ofNat b.toNat = Quoted.singleQuote then [Quoted.singleQuote]
      else Quoted.octetChar b
    String.ofList ('b' :: Quoted.doubleQuote :: body ++ [Quoted.doubleQuote])

namespace Value

mutual

/-- A value as a program would write it. -/
def quoted : Value → String
  | none => "None"
  | bool b => if b then "True" else "False"
  | int n => Numeral.signed n
  | float x => x.textIn Double.interpretedLayout
  | str s => Quoted.single s
  | bytes o => Quoted.interpretedOctets o
  | byteArray o => "bytearray(" ++ Quoted.interpretedOctets o ++ ")"
  | list items => "[" ++ quotedItems items ++ "]"
  | tuple [item] => "(" ++ quoted item ++ ",)"
  | tuple items => "(" ++ quotedItems items ++ ")"
  | derived _ base => quoted base
  | type name => "<class '" ++ name ++ "'>"
  | builtin name => "<built-in function " ++ name ++ ">"
  | exception e => e.kind ++ "(" ++ (if e.text.isEmpty then "" else Quoted.single e.text) ++ ")"
  | function name _ _ => "<function " ++ name ++ ">"
  | v => "<" ++ v.typeName ++ " object>"

/-- Values with commas between them. -/
def quotedItems : List Value → String
  | [] => ""
  | [item] => quoted item
  | item :: rest => quoted item ++ ", " ++ quotedItems rest

end

/-- What a value says to people. -/
def shown (v : Value) : String :=
  match v.core with
  | str s => s
  | exception e => e.text
  | v => quoted v

end Value

end EmbeddedPython
