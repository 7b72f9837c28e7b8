/-!
# Shell scripts

The words and the commands that a script is made of.  A script is a row of
octets, and each octet is the character of its number.

A word is a row of pieces.  Which of its characters are quoted is kept, since
quoted ones are neither cut into fields nor taken for patterns.
-/

namespace EmbeddedPython.Shell

/-- A part of a value that a pattern takes away. -/
inductive Removal where
  | shortestFront
  | longestFront
  | shortestBack
  | longestBack
deriving Repr, DecidableEq, Inhabited

/-- What takes the place of a parameter that is not set. -/
inductive Substitute where
  /-- The word. -/
  | fallback
  /-- The word, which the parameter is set to. -/
  | assigned
  /-- Nothing: the word is what is said about it. -/
  | complaint
  /-- Nothing: the word takes the place of a parameter that is set. -/
  | alternative
deriving Repr, DecidableEq, Inhabited

/-- How a redirection opens a file. -/
inductive Opening where
  | reading
  | writing
  /-- As for writing, even where files that are there are to be kept. -/
  | replacing
  | appending
  | readingAndWriting
deriving Repr, DecidableEq, Inhabited

mutual

/-- A piece of a word. -/
inductive Piece where
  /-- Characters without quotes. -/
  | text (cs : List Char)
  /-- Characters that are quoted one by one. -/
  | quoted (cs : List Char)
  /-- A stretch between double quotes. -/
  | quotes (pieces : List Piece)
  /-- The value of a parameter. -/
  | parameter (name : String) (form : Form)
  /-- The output of commands. -/
  | output (commands : Command)
  /-- The value of an arithmetic expression. -/
  | sum (pieces : List Piece)

/-- What an expansion makes of the value of a parameter. -/
inductive Form where
  | value
  | length
  /-- Something else for a parameter that is not set.  With `orEmpty` an empty
  value counts as none. -/
  | unless (s : Substitute) (orEmpty : Bool) (word : List Piece)
  | without (r : Removal) (pattern : List Piece)
  /-- A form that there is not. -/
  | unknown

/-- A change of a stream of a command. -/
inductive Redirection where
  | file (stream : Nat) (mode : Opening) (target : List Piece)
  /-- The stream becomes another one, or is closed. -/
  | copy (stream : Nat) (source : List Piece)
  /-- The input is the document of some number. -/
  | document (stream number : Nat)

/-- A command. -/
inductive Command where
  | idle
  /-- Settings of variables, words and redirections on a line. -/
  | simple (line : Nat) (settings words : List (List Piece)) (changes : List Redirection)
  | redirected (line : Nat) (command : Command) (changes : List Redirection)
  | sequence (first second : Command)
  /-- The second one if the first one succeeds. -/
  | both (first second : Command)
  /-- The second one if the first one fails. -/
  | either (first second : Command)
  | negation (command : Command)
  /-- Commands that run on their own, each reading what the one before it
  writes. -/
  | pipeline (commands : List Command)
  /-- A command that runs on its own. -/
  | subshell (line : Nat) (command : Command) (changes : List Redirection)
  /-- A command that is not waited for. -/
  | background (command : Command)
  | choice (condition yes no : Command)
  /-- The body again and again, as long as the condition fails or does not. -/
  | loop (untilSuccess : Bool) (condition body : Command)
  /-- The body for each field of the words. -/
  | each (line : Nat) (name : String) (words : List (List Piece)) (body : Command)
  /-- The command of the first clause with a pattern that the subject fits. -/
  | select (line : Nat) (subject : List Piece) (clauses : List (List (List Piece) × Command))
  | definition (line : Nat) (name : String) (body : Command)

end

/-- A word. -/
abbrev Word := List Piece

instance : Inhabited Piece := ⟨.text []⟩

instance : Inhabited Command := ⟨.idle⟩

instance : Inhabited Redirection := ⟨.document 0 0⟩

namespace Word

/-- The characters of a word of one piece without quotes. -/
def plain? : Word → Option (List Char)
  | [.text cs] => some cs
  | _ => none

/-- The characters of a word in which every character stands for itself. -/
def literal : Word → List Char
  | .text cs :: rest | .quoted cs :: rest => cs ++ literal rest
  | .quotes [] :: rest => literal rest
  | .quotes (.text cs :: _) :: rest => cs ++ literal rest
  | _ :: rest => literal rest
  | [] => []

/-- A word with quotes in it. -/
def hasQuotes (w : Word) : Bool :=
  w.any fun
    | .quoted _ | .quotes _ => true
    | _ => false

end Word

end EmbeddedPython.Shell
