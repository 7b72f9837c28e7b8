import EmbeddedPython.Text.Numeral

/-!
# Faults of TOML documents

A fault is a message and a place.  `Fault.report` shows the line with a mark
under the place.
-/

namespace EmbeddedPython.Toml

/-- Why a text is no document, or not the one that was asked for. -/
structure Fault where
  /-- How many characters of the document come behind the place. -/
  left : Nat
  /-- How many characters the mark stands under. -/
  width : Nat
  message : String
deriving Repr, DecidableEq

namespace Fault

/-- A fault in front of the characters `rest`. -/
def here (rest : List Char) (message : String) : Fault :=
  ⟨rest.length, 0, message⟩

/-- A fault of a document as a whole. -/
def ofWhole (document : List Char) (message : String) : Fault :=
  ⟨document.length, document.length, message⟩

/-- The characters of the last line. -/
def lastLine (cs : List Char) : List Char :=
  (cs.reverse.takeWhile (· != '\n')).reverse

/-- The message with the line it is about. -/
def report (document : List Char) (f : Fault) : String :=
  let before := document.take (document.length - f.left)
  let after := document.drop (document.length - f.left)
  let start := lastLine before
  let line := start ++ after.takeWhile (· != '\n')
  let number := Numeral.decimal (before.count '\n' + 1)
  let margin := String.ofList (List.replicate (number.length + 1) ' ')
  let marks := max 1 (min f.width (line.length - start.length))
  "TOML parse error at line " ++ String.ofList number ++ ", column "
    ++ Numeral.text (start.length + 1) ++ "\n"
    ++ margin ++ "|\n"
    ++ String.ofList number ++ " | " ++ String.ofList line ++ "\n"
    ++ margin ++ "|" ++ String.ofList (List.replicate (start.length + 1) ' ')
    ++ String.ofList (List.replicate marks '^') ++ "\n"
    ++ f.message ++ "\n"

end Fault

end EmbeddedPython.Toml
