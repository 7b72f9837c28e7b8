import EmbeddedPython.Shell.Reader.Input

/-!
# Reading shell scripts

`Reader.next` reads the next complete command of a script, so that what stands
in front of a mistake is still carried out.

Words and commands hold one another, so all of it is one recursion.  Every
step takes a character or goes one level down in the grammar, which bounds the
steps by the length of the script.
-/

namespace EmbeddedPython.Shell.Reader

/-! ## Characters of words -/

/-- A character that the name of a variable may hold. -/
def isNamePart (c : Char) : Bool :=
  c.isAlphanum || c == '_'

/-- A character that the name of a variable may begin with. -/
def isNameStart (c : Char) : Bool :=
  c.isAlpha || c == '_'

/-- The name of a variable. -/
def isName (cs : List Char) : Bool :=
  cs.head?.any isNameStart && cs.all isNamePart

/-- A parameter whose name is one special character. -/
def isSpecial (c : Char) : Bool :=
  ['$', '?', '#', '@', '*', '!', '-'].contains c || Numeral.isDigit c

/-- A character that ends a word without quotes. -/
def endsWord (c : Char) : Bool :=
  [' ', '\t', '\n', '&', '|', ';', '(', ')', '<', '>'].contains c

/-- Where the pieces of a word stand. -/
inductive Place where
  | bare
  /-- The word that ends a document, in which a dollar sign is none. -/
  | marker
  | quotes
  /-- Between braces, and whether these are between quotes. -/
  | braces (inQuotes : Bool)
  /-- An arithmetic expression, within so many parentheses. -/
  | sum (depth : Nat)
  | document
deriving Repr, DecidableEq

namespace Place

/-- Quotes begin at this place. -/
def allowsQuotes : Place → Bool
  | bare | marker | braces false => true
  | _ => false

/-- A character that a backslash quotes between double quotes. -/
def isQuotable (p : Place) (c : Char) : Bool :=
  match p with
  | document => ['$', '\x60', '\\'].contains c
  | braces _ => ['$', '\x60', '\\', '\x22', '\x7d'].contains c
  | _ => ['$', '\x60', '\\', '\x22'].contains c

/-- What is missing at the end of the script. -/
def complaint? : Place → Option String
  | bare | marker | document => none
  | quotes => some "Unterminated quoted string"
  | braces true => some "Unterminated quoted string"
  | braces false => some "Missing '\x7d'"
  | sum _ => some "Missing '))'"

end Place

/-- A word with a piece in front.  Characters of one kind are one piece. -/
def glue : Piece → Word → Word
  | .text front, .text back :: rest => .text (front ++ back) :: rest
  | .quoted front, .quoted back :: rest => .quoted (front ++ back) :: rest
  | piece, rest => piece :: rest

/-- The text of commands between backquotes, with the backslashes that the
quotes take away, up to the closing one. -/
def backquoted (inQuotes : Bool) : Nat → Reading (List Char)
  | 0 => return []
  | steps + 1 => do
    match ← Reading.take with
    | none => Reading.refuse "EOF in backquote substitution"
    | some '\x60' => return []
    | some '\\' =>
      match ← Reading.takeRaw with
      | none => return '\\' :: (← backquoted inQuotes steps)
      | some d =>
        let more ← backquoted inQuotes steps
        if ['\\', '\x60', '$'].contains d || (inQuotes && d == '\x22') then return d :: more
        else return '\\' :: d :: more
    | some c => return c :: (← backquoted inQuotes steps)

/-- The substitute that a character of a form stands for. -/
def substitute? (c : Char) : Option Substitute :=
  [('-', .fallback), ('=', .assigned), ('?', .complaint), ('+', .alternative)].lookup c

/-- What a form has in front of its word. -/
inductive FormHead where
  | unless (s : Substitute) (orEmpty : Bool)
  | without (r : Removal)
  | plain (f : Form)

/-- The form with a word. -/
def FormHead.form : FormHead → Word → Form
  | .unless s orEmpty, w => .unless s orEmpty w
  | .without r, w => .without r w
  | .plain f, _ => f

/-- The substitute that the next character stands for.  A character that
stands for none is lost. -/
def substituteHead (orEmpty : Bool) : Reading FormHead := do
  match (← Reading.peek).bind substitute? with
  | some s =>
    let _ ← Reading.take
    return .unless s orEmpty
  | none =>
    let lost := (← get).rest.head?
    modify fun i => { i with rest := i.rest.drop 1 }
    return .plain (if orEmpty && lost == some '\x7d' then .value else .unknown)

/-- The beginning of a form, behind the name. -/
def formHead : Reading FormHead := do
  match ← Reading.peek with
  | some '\x7d' => return .plain .value
  | some ':' =>
    let _ ← Reading.take
    substituteHead true
  | some '#' =>
    let _ ← Reading.take
    return .without (if ← Reading.takes '#' then .longestFront else .shortestFront)
  | some '%' =>
    let _ ← Reading.take
    return .without (if ← Reading.takes '%' then .longestBack else .shortestBack)
  | _ => substituteHead false

/-- The name of a parameter in front of the input, empty if there is none. -/
def parameterName (steps : Nat) : Reading (List Char) := do
  match ← Reading.peek with
  | some c =>
    if isNameStart c then Reading.takeWhile isNamePart steps
    else if Numeral.isDigit c then Reading.takeWhile Numeral.isDigit steps
    else if isSpecial c then
      let _ ← Reading.take
      return [c]
    else return []
  | none => return []

/-- The name behind an opening brace, and whether it is its length that is
asked for.  A number sign may be the name itself. -/
def bracedName (steps : Nat) : Reading (List Char × Bool) := do
  let name ← parameterName steps
  if name != ['#'] then return (name, false)
  else
    let i ← get
    match ← Reading.peek with
    | some c =>
      if isNamePart c then return (← parameterName steps, true)
      else if c != '\x7d' && isSpecial c then
        let _ ← Reading.take
        if (← Reading.peek) == some '\x7d' then return ([c], true)
        else
          set i
          return (name, false)
      else return (name, false)
    | none => return (name, false)

/-! ## Tokens -/

/-- The rest of a redirection operator behind its first character. -/
def redirector (first : Char) : Reading String := do
  if first = '>' then
    if ← Reading.takes '>' then return ">>"
    else if ← Reading.takes '&' then return ">&"
    else if ← Reading.takes '|' then return ">|"
    else return ">"
  else if ← Reading.takes '<' then
    if ← Reading.takes '-' then return "<<-" else return "<<"
  else if ← Reading.takes '&' then return "<&"
  else if ← Reading.takes '>' then return "<>"
  else return "<"

/-- The stream of a redirection that names none. -/
def usualStream (operator : String) : Nat :=
  if operator.startsWith "<" then 0 else 1

/-- The operator that a character begins. -/
def operator? (c : Char) : Reading (Option String) := do
  let single (name : String) (c : Char) (double : String) : Reading (Option String) := do
    let _ ← Reading.take
    return some (if ← Reading.takes c then double else name)
  match c with
  | '&' => single "&" '&' "&&"
  | '|' => single "|" '|' "||"
  | ';' => single ";" ';' ";;"
  | '(' | ')' =>
    let _ ← Reading.take
    return some (c.toString)
  | _ => return none

/-- The number that a word is, if it is one digit in front of a redirection. -/
def streamNumber? (w : Word) (next : Option Char) : Option Nat :=
  match w.plain?, next with
  | some [c], some d =>
    if Numeral.isDigit c && (d == '<' || d == '>') then some (Numeral.digitValue c) else none
  | _, _ => none

/-- The redirection of an operator and the word behind it. -/
def redirectionOf (stream : Nat) (operator : String) (target : Word) : Redirection :=
  match operator with
  | ">" => .file stream .writing target
  | ">|" => .file stream .replacing target
  | ">>" => .file stream .appending target
  | "<" => .file stream .reading target
  | "<>" => .file stream .readingAndWriting target
  | _ => .copy stream target

/-! ## Commands -/

/-- A word that sets a variable. -/
def isSetting (w : Word) : Bool :=
  match w with
  | .text cs :: _ =>
    let name := cs.takeWhile isNamePart
    isName name && (cs.drop name.length).head? == some '='
  | _ => false

/-- The names that no function may have. -/
def specialNames : List String :=
  [".", ":", "break", "continue", "eval", "exec", "exit", "export", "readonly", "return", "set",
    "shift", "times", "trap", "unset"]

/-- The words and redirections of a simple command so far. -/
structure Parts where
  settings : List Word
  words : List Word
  changes : List Redirection

/-- Parts with one more word. -/
def Parts.addWord (p : Parts) (w : Word) : Parts :=
  if p.words.isEmpty && isSetting w then { p with settings := p.settings ++ [w] }
  else { p with words := p.words ++ [w] }

/-- A command with another one behind it. -/
def behind (before : Option Command) (c : Command) : Command :=
  match before with
  | some first => .sequence first c
  | none => c

/-- The words that a loop without words runs over. -/
def allArguments : List Word :=
  [[.quotes [.parameter "@" .value]]]

mutual

/-- The pieces up to the end of a place. -/
def pieces : Nat → Place → Reading Word
  | 0, _ => Reading.refuse "too deep"
  | steps + 1, p => do
    match ← Reading.peek with
    | none =>
      match p.complaint? with
      | some complaint => Reading.refuse complaint
      | none => return []
    | some c =>
      match p with
      | .bare | .marker =>
        if endsWord c then return [] else glue <$> piece steps p c <*> pieces steps p
      | .quotes =>
        if c = '\x22' then Reading.take *> pure []
        else glue <$> piece steps p c <*> pieces steps p
      | .braces _ =>
        if c = '\x7d' then Reading.take *> pure []
        else glue <$> piece steps p c <*> pieces steps p
      | .sum depth =>
        if c = '(' then
          let _ ← Reading.take
          glue (.text [c]) <$> pieces steps (.sum (depth + 1))
        else if c = ')' then
          let _ ← Reading.take
          if 0 < depth then glue (.text [c]) <$> pieces steps (.sum (depth - 1))
          else if ← Reading.takes ')' then return []
          else glue (.text [c]) <$> pieces steps p
        else glue <$> piece steps p c <*> pieces steps p
      | .document => glue <$> piece steps p c <*> pieces steps p

/-- The piece that a character begins. -/
def piece : Nat → Place → Char → Reading Piece
  | 0, _, _ => Reading.refuse "too deep"
  | steps + 1, p, c => do
    let _ ← Reading.take
    if c = '\\' then
      match ← Reading.takeRaw with
      | none => return .quoted [c]
      | some d =>
        if p.allowsQuotes || p.isQuotable d then return .quoted [d] else return .quoted [c, d]
    else if c = '\x27' && p.allowsQuotes then
      .quoted <$> Reading.upTo '\x27' "Unterminated quoted string"
    else if c = '\x22' && (p.allowsQuotes || p == .braces true) then
      .quotes <$> pieces steps .quotes
    else if c = '$' && p != .marker then dollar steps p
    else if c = '\x60' && p != .marker then
      let line := (← get).line
      let text ← backquoted (!p.allowsQuotes) steps
      let _ := line
      .output <$> Reading.within text 1 (commands steps)
    else return .text [c]

/-- What a dollar sign begins. -/
def dollar : Nat → Place → Reading Piece
  | 0, _ => Reading.refuse "too deep"
  | steps + 1, p => do
    match ← Reading.peek with
    | some '(' =>
      let _ ← Reading.take
      if ← Reading.takes '(' then .sum <$> pieces steps (.sum 0)
      else
        let outer := (← get).pending
        modify fun i => { i with pending := [] }
        let c ← commands steps
        let t ← next steps false false
        if !t.isOperator ")" then Reading.refuseToken t (some (.operator ")"))
        modify fun i => { i with pending := outer }
        return .output c
    | some '\x7b' =>
      let _ ← Reading.take
      braced steps p
    | some c =>
      if isNameStart c then
        let name ← Reading.takeWhile isNamePart steps
        return .parameter (String.ofList name) .value
      else if isSpecial c then
        let _ ← Reading.take
        return .parameter c.toString .value
      else return .text ['$']
    | none => return .text ['$']

/-- An expansion behind its opening brace. -/
def braced : Nat → Place → Reading Piece
  | 0, _ => Reading.refuse "too deep"
  | steps + 1, p => do
    let (name, measured) ← bracedName steps
    let text := String.ofList name
    if name.isEmpty then
      let _ ← pieces steps (.braces (!p.allowsQuotes))
      return .parameter text .unknown
    else if measured then
      let rest ← pieces steps (.braces (!p.allowsQuotes))
      return .parameter text (if rest.isEmpty then .length else .unknown)
    else
      let head ← formHead
      let quoted := match head with
        | .without _ => false
        | _ => !p.allowsQuotes
      return .parameter text (head.form (← pieces steps (.braces quoted)))

/-- The commands of a substitution. -/
def commands : Nat → Reading Command
  | 0 => Reading.refuse "too deep"
  | steps + 1 => do
    return (← list steps true true none).getD .idle

/-- The next token. -/
def token : Nat → Reading Token
  | 0 => Reading.refuse "too deep"
  | steps + 1 => do
    match (← get).kept with
    | some t =>
      modify fun i => { i with kept := none }
      return t
    | none =>
      Reading.skipBlanks steps
      match ← Reading.peek with
      | none => return .finish
      | some '\n' =>
        let _ ← Reading.take
        documents steps
        return .newline
      | some c =>
        match ← operator? c with
        | some name => return .operator name
        | none =>
          if c = '<' || c = '>' then
            let _ ← Reading.take
            let operator ← redirector c
            return .redirection (usualStream operator) operator
          else
            let w ← pieces steps .bare
            let after := (← get).rest.head?
            match streamNumber? w after, after with
            | some stream, some c =>
              let _ ← Reading.take
              return .redirection stream (← redirector c)
            | _, _ => return .word w

/-- Reads the documents that the lines behind this one hold. -/
def documents : Nat → Reading Unit
  | 0 => Reading.refuse "too deep"
  | steps + 1 => do
    match (← get).pending with
    | [] => return
    | d :: more =>
      modify fun i => { i with pending := more }
      let line := (← get).line
      let text ← Reading.documentLines d steps false
      let w ← if d.verbatim then pure [.quoted text]
        else Reading.within text line (pieces steps .document)
      Reading.keepDocument d.number [.quotes w]
      documents steps

/-- The next token, perhaps as a word of the language, perhaps behind ends of
lines. -/
def next : Nat → Bool → Bool → Reading Token
  | 0, _, _ => Reading.refuse "too deep"
  | steps + 1, asKeyword, skipsLines => do
    let isKept := (← get).kept.isSome
    let goesOnAt := (← get).goesOnAt
    let t ← token steps
    let i ← get
    let goesOn := !isKept && goesOnAt.any fun left => i.rest.length < left
    if goesOn then set { i with goesOnAt := none }
    match t with
    | .newline => if skipsLines then next steps asKeyword skipsLines else return t
    | .word w =>
      let t := if asKeyword then t.withKeywords else t
      match t, w.plain? with
      | .word _, some cs =>
        let name := String.ofList cs
        match i.abbreviated? name with
        | some text =>
          if isKept || !(asKeyword || goesOn) then return t
          else
            set (i.expanded name text)
            next steps asKeyword skipsLines
        | none => return t
      | t, _ => return t
    | t => return t

/-- Takes a word of the language that has to come next. -/
def demand : Nat → String → Reading Unit
  | 0, _ => Reading.refuse "too deep"
  | steps + 1, name => do
    let t ← next steps true false
    if t.isKeyword name || t.isOperator name then return else Reading.refuseToken t (some (.keyword name))

/-- The commands up to the end of a list, behind those before.  A block goes on
over the ends of lines, and may be over at once if it `mayEnd`. -/
def list : Nat → Bool → Bool → Option Command → Reading (Option Command)
  | 0, _, _, _ => Reading.refuse "too deep"
  | steps + 1, block, mayEnd, before => do
    let t ← next steps true block
    match t with
    | .newline => return some (before.getD .idle)
    | .finish =>
      Reading.keep t
      return before
    | t =>
      Reading.keep t
      if block && mayEnd && t.endsList then return before
      else
        let c ← chain steps
        let t ← next steps false false
        match t with
        | .operator "&" => list steps block true (some (behind before (.background c)))
        | .operator ";" => list steps block true (some (behind before c))
        | .newline | .finish =>
          Reading.keep t
          list steps block true (some (behind before c))
        | t =>
          if !block then Reading.refuseToken t
          Reading.keep t
          return some (behind before c)

/-- Commands with `&&` and `||` between them. -/
def chain : Nat → Reading Command
  | 0 => Reading.refuse "too deep"
  | steps + 1 => do chainFrom steps (← negated steps false)

/-- Commands with `&&` and `||` between them, behind a first one. -/
def chainFrom : Nat → Command → Reading Command
  | 0, _ => Reading.refuse "too deep"
  | steps + 1, first => do
    let t ← next steps false false
    if t.isOperator "&&" then chainFrom steps (.both first (← negated steps true))
    else if t.isOperator "||" then chainFrom steps (.either first (← negated steps true))
    else
      Reading.keep t
      return first

/-- A pipeline, perhaps with a `!` in front. -/
def negated : Nat → Bool → Reading Command
  | 0, _ => Reading.refuse "too deep"
  | steps + 1, skipsLines => do
    let t ← next steps true skipsLines
    if t.isKeyword "!" then return .negation (← piped steps)
    else
      Reading.keep t
      piped steps

/-- A pipeline. -/
def piped : Nat → Reading Command
  | 0 => Reading.refuse "too deep"
  | steps + 1 => do
    let first ← command steps false
    let more ← pipedFrom steps
    if more.isEmpty then return first else return .pipeline (first :: more)

/-- The rest of a pipeline behind its first command. -/
def pipedFrom : Nat → Reading (List Command)
  | 0 => Reading.refuse "too deep"
  | steps + 1 => do
    let t ← next steps false false
    if t.isOperator "|" then return (← command steps true) :: (← pipedFrom steps)
    else
      Reading.keep t
      return []

/-- A command. -/
def command : Nat → Bool → Reading Command
  | 0, _ => Reading.refuse "too deep"
  | steps + 1, skipsLines => do
    let t ← next steps true skipsLines
    let line := (← get).line
    match t with
    | .keyword "if" => redirected steps line (← choice steps "fi")
    | .keyword "while" => redirected steps line (← loop steps false)
    | .keyword "until" => redirected steps line (← loop steps true)
    | .keyword "for" => redirected steps line (← each steps line)
    | .keyword "case" => redirected steps line (← select steps line)
    | .operator "(" =>
      let c ← block steps
      demand steps ")"
      return .subshell line c (← changes steps)
    | .keyword "\x7b" =>
      let c ← block steps
      demand steps "\x7d"
      redirected steps line c
    | .word _ | .redirection _ _ =>
      Reading.keep t
      simple steps line ⟨[], [], []⟩
    | t => Reading.refuseToken t

/-- The commands of a block. -/
def block : Nat → Reading Command
  | 0 => Reading.refuse "too deep"
  | steps + 1 => do
    return (← list steps true false none).getD .idle

/-- A command with the redirections behind it. -/
def redirected : Nat → Nat → Command → Reading Command
  | 0, _, _ => Reading.refuse "too deep"
  | steps + 1, line, c => do
    match ← changes steps with
    | [] => return c
    | changes => return .redirected line c changes

/-- The redirections in front of the input. -/
def changes : Nat → Reading (List Redirection)
  | 0 => Reading.refuse "too deep"
  | steps + 1 => do
    let t ← next steps true false
    match t with
    | .redirection stream operator =>
      return (← change steps stream operator) :: (← changes steps)
    | t =>
      Reading.keep t
      return []

/-- The redirection of an operator. -/
def change : Nat → Nat → String → Reading Redirection
  | 0, _, _ => Reading.refuse "too deep"
  | steps + 1, stream, operator => do
    if operator == "<<" || operator == "<<-" then
      Reading.skipBlanks steps
      match ← Reading.peek with
      | some c =>
        if endsWord c then Reading.refuseToken (← token steps)
        let w ← pieces steps .marker
        return .document stream (← Reading.announce w.literal w.hasQuotes (operator == "<<-"))
      | none => Reading.refuseToken .finish
    else
      match ← next steps false false with
      | .word w => return redirectionOf stream operator w
      | t => Reading.refuseToken t

/-- The rest of a choice behind its first word. -/
def choice : Nat → String → Reading Command
  | 0, _ => Reading.refuse "too deep"
  | steps + 1, last => do
    let condition ← block steps
    demand steps "then"
    let yes ← block steps
    let t ← next steps true false
    match t with
    | .keyword "elif" => return .choice condition yes (← choice steps last)
    | .keyword "else" =>
      let no ← block steps
      demand steps last
      return .choice condition yes no
    | t =>
      Reading.keep t
      demand steps last
      return .choice condition yes .idle

/-- The rest of a loop behind its first word. -/
def loop : Nat → Bool → Reading Command
  | 0, _ => Reading.refuse "too deep"
  | steps + 1, untilSuccess => do
    let condition ← block steps
    demand steps "do"
    let body ← block steps
    demand steps "done"
    return .loop untilSuccess condition body

/-- The rest of a loop over words behind its first word. -/
def each : Nat → Nat → Reading Command
  | 0, _ => Reading.refuse "too deep"
  | steps + 1, line => do
    let name ← match ← next steps false false with
      | .word w =>
        match w.plain? with
        | some cs =>
          if isName cs then pure (String.ofList cs) else Reading.refuse "Bad for loop variable"
        | none => Reading.refuse "Bad for loop variable"
      | _ => Reading.refuse "Bad for loop variable"
    let t ← next steps true true
    let words ← match t with
      | .keyword "in" => do
        let words ← words steps
        let t ← next steps false false
        match t with
        | .newline | .operator ";" => pure words
        | t => Reading.refuseToken t
      | .operator ";" => pure allArguments
      | t => do
        Reading.keep t
        pure allArguments
    let t ← next steps true true
    if !t.isKeyword "do" then Reading.refuseToken t (some (.keyword "do"))
    let body ← block steps
    demand steps "done"
    return .each line name words body

/-- The words in front of the input. -/
def words : Nat → Reading (List Word)
  | 0 => Reading.refuse "too deep"
  | steps + 1 => do
    match ← next steps false false with
    | .word w => return w :: (← words steps)
    | t =>
      Reading.keep t
      return []

/-- The rest of a selection behind its first word. -/
def select : Nat → Nat → Reading Command
  | 0, _ => Reading.refuse "too deep"
  | steps + 1, line => do
    match ← next steps false false with
    | .word subject =>
      let t ← next steps true true
      if !t.isKeyword "in" then Reading.refuseToken t (some (.keyword "in"))
      return .select line subject (← clauses steps)
    | t => Reading.refuseToken t (some (.word []))

/-- The clauses of a selection. -/
def clauses : Nat → Reading (List (List Word × Command))
  | 0 => Reading.refuse "too deep"
  | steps + 1 => do
    let t ← next steps true true
    if t.isKeyword "esac" then return []
    else
      let t ← if t.isOperator "(" then next steps false false else pure t
      let patterns ← patterns steps t
      let body := (← list steps true true none).getD .idle
      let t ← next steps true true
      if t.isKeyword "esac" then return [(patterns, body)]
      else if t.isOperator ";;" then return (patterns, body) :: (← clauses steps)
      else Reading.refuseToken t (some (.operator ";;"))

/-- The patterns of a clause, the first one of which was read. -/
def patterns : Nat → Token → Reading (List Word)
  | 0, _ => Reading.refuse "too deep"
  | steps + 1, first => do
    let w : Word := match first with
      | .word w => w
      | .keyword name => [.text name.toList]
      | _ => []
    let t ← next steps false false
    if t.isOperator "|" then return w :: (← patterns steps (← next steps false false))
    else if t.isOperator ")" then return [w]
    else Reading.refuseToken t (some (.operator ")"))

/-- The rest of a simple command. -/
def simple : Nat → Nat → Parts → Reading Command
  | 0, _, _ => Reading.refuse "too deep"
  | steps + 1, line, p => do
    if p.words.isEmpty then modify Input.goingOn
    let t ← next steps false false
    match t with
    | .word w => simple steps line (p.addWord w)
    | .redirection stream operator =>
      simple steps line { p with changes := p.changes ++ [← change steps stream operator] }
    | t =>
      match t.isOperator "(", p with
      | true, ⟨[], [name], []⟩ => function steps name
      | _, _ =>
        Reading.keep t
        return .simple line p.settings p.words p.changes

/-- The definition of a function behind its opening parenthesis. -/
def function : Nat → Word → Reading Command
  | 0, _ => Reading.refuse "too deep"
  | steps + 1, name => do
    let t ← next steps false false
    if !t.isOperator ")" then Reading.refuseToken t (some (.operator ")"))
    let text := name.literal
    if !isName text || specialNames.contains (String.ofList text) then
      Reading.refuse "Bad function name"
    let line := (← get).line
    return .definition line (String.ofList text) (← command steps true)

end

/-- The pieces of a text in which only expansions count. -/
def textWord (cs : List Char) (fresh : Nat) : Except Refusal (Word × Input) :=
  (pieces (12 * cs.length + 64) .document).run (.ofScript cs fresh)

/-- The next complete command of a script, if there is one. -/
def next? (i : Input) : Except Refusal (Option Command × Input) :=
  let most := (i.abbreviations.map fun a => a.2.length + 1).foldl (· + ·) 1
  (list ((12 * i.rest.length + 64) * most * most) false false none).run i

end EmbeddedPython.Shell.Reader
