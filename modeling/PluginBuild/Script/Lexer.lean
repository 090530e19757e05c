import PluginBuild.Script.Token

/-!
From the text of a script to its tokens. The scanner moves through the text one token or one line
start at a time and never back, so it ends with the text. Tabs go to the next multiple of eight
columns; a second count with tabs of one column must agree on what is deeper.
-/

namespace PluginBuild.Script.Lexer

open PluginBuild.Text

structure Bracket where
  char : Char
  line : Nat
  column : Nat

/-- The scanner between two tokens: the text ahead and its length, the line, and how much of the
line is behind, in bytes and in characters. `lastLength` is the length in bytes of the line before
with its end. -/
structure State where
  rest : List Char
  left : Nat
  line : Nat
  column : Nat
  chars : Nat
  lastLength : Nat
  lineStart : Bool
  indents : List (Nat × Nat)
  brackets : List Bracket
  tokens : Array Token

def State.initial (text : List Char) : State where
  rest := text
  left := text.length
  line := 1
  column := 0
  chars := 0
  lastLength := 0
  lineStart := true
  indents := []
  brackets := []
  tokens := #[]

def State.skip (s : State) : State :=
  match s.rest with
  | [] => s
  | '\n' :: rest =>
    { s with
      rest := rest, left := s.left - 1, line := s.line + 1, column := 0, chars := 0
      lastLength := s.column + 1 }
  | c :: rest =>
    { s with
      rest := rest, left := s.left - 1, column := s.column + c.utf8Size, chars := s.chars + 1 }

def State.skipMany : Nat → State → State
  | 0, s => s
  | n + 1, s => skipMany n s.skip

/-- The number of the line that the end of the text belongs to: a line that is empty because the
text ends there does not count. -/
def State.lastLine (s : State) : Nat :=
  if s.column = 0 ∧ 1 < s.line then s.line - 1 else s.line

def State.lastCursor (s : State) : Nat := if s.column = 0 then s.lastLength else s.column

inductive Step where
  | more (s : State)
  | done (tokens : Array Token) (ending : Ending)

def State.emit (s : State) (kind : TokenKind) (count : Nat) : Step :=
  let text := String.ofList (s.rest.take count)
  let after := s.skipMany count
  .more { after with tokens := s.tokens.push ⟨kind, text, s.line, some s.column, after.column⟩ }

def State.misspelt (s : State) (e : SpellingError) (count : Nat) : Step :=
  .done s.tokens (.misspelt e s.line (s.chars + count))

/-- Characters that can begin a name. Which non-ASCII ones do is settled when the name is read. -/
def beginsName (c : Char) : Bool := c.isAlpha || c == '_' || 128 ≤ c.toNat

def continuesName (c : Char) : Bool := beginsName c || c.isDigit

def badCharacter? : Nat → List Char → Option (Nat × Char)
  | _, [] => none
  | 0, c :: rest => if isIdentifierStart c then badCharacter? 1 rest else some (0, c)
  | n + 1, c :: rest => if isIdentifierPart c then badCharacter? (n + 2) rest else some (n + 1, c)

def scanName (s : State) : Step :=
  let word := s.rest.takeWhile continuesName
  match badCharacter? 0 word with
  | some (place, c) => s.misspelt (.badCharacter c) (place + 1)
  | none =>
    s.emit (if isKeyword (String.ofList word) then .keyword else .name) word.length

def stringPrefix? (text : List Char) : Option Nat :=
  let letters := (text.takeWhile Char.isAlpha).map Char.toLower
  let marks := [[], ['b'], ['u'], ['r'], ['f'], ['b', 'r'], ['r', 'b'], ['f', 'r'], ['r', 'f']]
  match text.drop letters.length with
  | c :: _ => if (c == '\'' || c == '"') && marks.contains letters then some letters.length else none
  | [] => none

/-- The number of characters up to the end of a string, behind its opening quotes; `none` if it
does not end, with the number of characters up to where that shows. `closing` counts the quotes just
seen. A backslash takes the character after it along. -/
def stringLength (quote : Char) (size : Nat) : Nat → Nat → List Char → Except Nat Nat
  | _, n, [] => .error n
  | closing, n, c :: rest =>
    if c = quote then
      if closing + 1 = size then .ok (n + 1) else stringLength quote size (closing + 1) (n + 1) rest
    else if c = '\n' ∧ size = 1 then .error n
    else if c = '\\' then
      match rest with
      | [] => .error (n + 1)
      | _ :: rest => stringLength quote size 0 (n + 2) rest
    else stringLength quote size 0 (n + 1) rest

def scanString (s : State) (letters : Nat) : Step :=
  match s.rest.drop letters with
  | [] => s.emit .string letters
  | quote :: rest =>
    let triple := rest.take 2 == [quote, quote]
    if !triple && rest.head? == some quote then s.emit .string (letters + 2)
    else
      let size := if triple then 3 else 1
      match stringLength quote size 0 (letters + size) (rest.drop (size - 1)) with
      | .ok count => s.emit .string count
      | .error count =>
        let reached := s.skipMany count
        let line := if reached.rest.isEmpty then reached.lastLine else reached.line
        s.misspelt (.unterminatedString triple line) 1

/-- Digits of a base with single underscores among them. `.error n` is the place of an underscore
that no digit follows, `first` demands a digit at the beginning. -/
def digits (isBaseDigit : Char → Bool) : Nat → List Char → Except Nat (Nat × List Char)
  | n, '_' :: c :: rest =>
    if isBaseDigit c then digits isBaseDigit (n + 2) rest else .error (n + 1)
  | n, c :: rest =>
    if isBaseDigit c then digits isBaseDigit (n + 1) rest
    else if c = '_' then .error (n + 1)
    else .ok (n, c :: rest)
  | n, [] => .ok (n, [])

def followsNumber (text : List Char) : Bool :=
  [['a', 'n', 'd'], ['e', 'l', 's', 'e'], ['f', 'o', 'r'], ['i', 'f'], ['i', 'n'], ['i', 's'],
    ['o', 'r'], ['n', 'o', 't']].any fun word => text.take word.length == word

def State.endNumber (s : State) (kind : NumberKind) (count : Nat) (rest : List Char) : Step :=
  match rest with
  | c :: _ =>
    if continuesName c && !followsNumber rest then s.misspelt (.badNumber kind) count
    else s.emit .number count
  | [] => s.emit .number count

def State.endDecimal (s : State) (count : Nat) (rest : List Char) : Step :=
  match rest with
  | c :: rest' =>
    if c = 'j' ∨ c = 'J' then s.endNumber .imaginary (count + 1) rest'
    else s.endNumber .decimal count rest
  | [] => s.endNumber .decimal count rest

def State.exponent (s : State) (count : Nat) (rest : List Char) : Step :=
  match rest with
  | e :: after =>
    if e = 'e' ∨ e = 'E' then
      let signed := match after with
        | c :: _ => c == '+' || c == '-'
        | [] => false
      let marks := if signed then 2 else 1
      let digitsPart := after.drop (marks - 1)
      if (digitsPart.head?.map Char.isDigit).getD false then
        match digits Char.isDigit (count + marks) digitsPart with
        | .ok (n, rest') => s.endDecimal n rest'
        | .error n => s.misspelt (.badNumber .decimal) n
      else if signed then s.misspelt (.badNumber .decimal) (count + marks)
      else s.endNumber .decimal count rest
    else s.endDecimal count rest
  | [] => s.endDecimal count rest

def State.fraction (s : State) (count : Nat) (rest : List Char) : Step :=
  if (rest.head?.map Char.isDigit).getD false then
    match digits Char.isDigit count rest with
    | .ok (n, rest') => s.exponent n rest'
    | .error n => s.misspelt (.badNumber .decimal) n
  else s.exponent count rest

def isOctalDigit (c : Char) : Bool := '0' ≤ c && c ≤ '7'

def isBinaryDigit (c : Char) : Bool := c == '0' || c == '1'

def isHexDigit (c : Char) : Bool :=
  c.isDigit || ('a' ≤ c && c ≤ 'f') || ('A' ≤ c && c ≤ 'F')

def State.based (s : State) (kind : NumberKind) (isBaseDigit : Char → Bool) (rest : List Char) :
    Step :=
  let lead := if rest.head? == some '_' then 1 else 0
  match rest.drop lead with
  | [] => s.misspelt (.badNumber kind) (2 + lead)
  | c :: _ =>
    if !isBaseDigit c then
      if c.isDigit && kind != .hexadecimal then s.misspelt (.badDigit kind c) (3 + lead)
      else s.misspelt (.badNumber kind) (2 + lead)
    else match digits isBaseDigit (2 + lead) (rest.drop lead) with
      | .error n =>
        match s.rest.drop n with
        | d :: _ =>
          if d.isDigit && kind != .hexadecimal then s.misspelt (.badDigit kind d) (n + 1)
          else s.misspelt (.badNumber kind) n
        | [] => s.misspelt (.badNumber kind) n
      | .ok (n, rest') =>
        match rest' with
        | d :: _ =>
          if d.isDigit then s.misspelt (.badDigit kind d) (n + 1) else s.endNumber kind n rest'
        | [] => s.endNumber kind n rest'

/-- A number that begins with a digit. Zeros in front of another digit are refused unless a
fraction, an exponent or the imaginary mark follows. -/
def scanNumber (s : State) : Step :=
  match s.rest with
  | '0' :: mark :: rest =>
    if mark = 'x' ∨ mark = 'X' then s.based .hexadecimal isHexDigit rest
    else if mark = 'o' ∨ mark = 'O' then s.based .octal isOctalDigit rest
    else if mark = 'b' ∨ mark = 'B' then s.based .binary isBinaryDigit rest
    else match digits Char.isDigit 0 s.rest with
      | .error n => s.misspelt (.badNumber .decimal) n
      | .ok (n, rest') =>
        let zero := (s.rest.take n).all fun c => c == '0' || c == '_'
        match rest' with
        | '.' :: after => s.fraction (n + 1) after
        | c :: _ =>
          if c = 'e' ∨ c = 'E' ∨ c = 'j' ∨ c = 'J' then s.exponent n rest'
          else if zero then s.endNumber .decimal n rest'
          else s.misspelt .leadingZeros 1
        | [] => if zero then s.emit .number n else s.misspelt .leadingZeros 1
  | _ => match digits Char.isDigit 0 s.rest with
    | .error n => s.misspelt (.badNumber .decimal) n
    | .ok (n, '.' :: after) => s.fraction (n + 1) after
    | .ok (n, rest') => s.exponent n rest'

def longOperators : List String :=
  ["**=", "//=", "<<=", ">>=", "...", "!=", "%=", "&=", "**", "*=", "+=", "-=", "->", "//", "/=",
    ":=", "<<", "<=", "<>", "==", ">=", ">>", "@=", "^=", "|="]

def closes (opened close : Char) : Bool :=
  (opened == '(' && close == ')') || (opened == '[' && close == ']') ||
    (opened == '\x7b' && close == '\x7d')

def maxBrackets : Nat := 200

def maxIndents : Nat := 100

def scanOperator (s : State) (c : Char) : Step :=
  match longOperators.find? fun op => s.rest.take op.length == op.toList with
  | some op => s.emit .op op.length
  | none =>
    if c = '(' ∨ c = '[' ∨ c = '\x7b' then
      if maxBrackets ≤ s.brackets.length then s.misspelt .tooManyBrackets 1
      else { s with brackets := ⟨c, s.line, s.column⟩ :: s.brackets }.emit .op 1
    else if c = ')' ∨ c = ']' ∨ c = '\x7d' then
      match s.brackets with
      | [] => s.misspelt (.unmatched c) 1
      | opened :: outer =>
        if closes opened.char c then { s with brackets := outer }.emit .op 1
        else
          let line := if opened.line = s.line then none else some opened.line
          s.misspelt (.mismatched c opened.char line) 1
    else if isPrintable c then s.emit .op 1
    else s.misspelt (.badCharacter c) 1

def isSpace (c : Char) : Bool := c == ' ' || c == '\t' || c == '\x0c'

def State.finish (s : State) : Step :=
  match s.brackets with
  | b :: _ => .done s.tokens (.unclosed b.char b.line b.column s.lastLine)
  | [] => .done (s.tokens.push ⟨.finish, "", s.lastLine, none, s.lastCursor⟩) .complete

/-- The end of a line outside brackets is a token; inside brackets it is a space. `start` is where
the line's end or the comment before it begins. -/
def State.endLine (s start : State) : Step :=
  let after := { s.skip with lineStart := true }
  if s.brackets.isEmpty then
    .more { after with
      tokens := s.tokens.push ⟨.newline, "\n", start.line, some start.column, s.column⟩ }
  else .more after

def State.joinLine (s : State) : Step ⊕ State :=
  let after := s.skip
  match after.rest with
  | '\n' :: rest =>
    if rest.isEmpty then
      match s.brackets with
      | b :: _ => .inl (.done s.tokens (.unclosed b.char b.line b.column after.line))
      | [] => .inl (.done s.tokens (.endsInBackslash after.line (after.column + 1)))
    else .inr after.skip
  | _ => .inl (.done s.tokens (.strayBackslash s.line (after.column + 1)))

def scanToken (s : State) : Step :=
  let s := s.skipMany (s.rest.takeWhile isSpace).length
  match s.rest with
  | [] => s.finish
  | c :: after =>
    if c = '#' then
      let comment := (s.rest.takeWhile (· != '\n')).length
      (s.skipMany comment).endLine s
    else if c = '\n' then s.endLine s
    else match stringPrefix? s.rest with
    | some letters => scanString s letters
    | none =>
      if beginsName c then scanName s
      else if c.isDigit then scanNumber s
      else if c = '.' ∧ (after.head?.map Char.isDigit).getD false then s.fraction 1 after
      else if c = '\\' then
        match s.joinLine with
        | .inl stop => stop
        | .inr next => .more next
      else scanOperator s c

/-- The indentation of a line: its width, its width with narrow tabs, and the width before the
first backslash in it. -/
structure Indent where
  width : Nat
  narrow : Nat
  joined : Nat

def measureIndent : Nat → Indent → State → Step ⊕ (Indent × State)
  | 0, indent, s => .inr (indent, s)
  | fuel + 1, indent, s =>
    match s.rest with
    | ' ' :: _ =>
      measureIndent fuel { indent with width := indent.width + 1, narrow := indent.narrow + 1 } s.skip
    | '\t' :: _ =>
      measureIndent fuel
        { indent with width := (indent.width / 8 + 1) * 8, narrow := indent.narrow + 1 } s.skip
    | '\x0c' :: _ => measureIndent fuel { indent with width := 0, narrow := 0 } s.skip
    | '\\' :: _ =>
      let indent := if indent.joined = 0 then { indent with joined := indent.width } else indent
      match s.joinLine with
      | .inl stop => .inl stop
      | .inr next => measureIndent fuel indent next
    | _ => .inr (indent, s)

def closeIndents (width : Nat) : List (Nat × Nat) → List (Nat × Nat) × Nat
  | [] => ([], 0)
  | (w, narrow) :: outer =>
    if width < w then
      let (kept, n) := closeIndents width outer
      (kept, n + 1)
    else ((w, narrow) :: outer, 0)

def State.indentTo (s : State) (width narrow : Nat) : Step :=
  let (topWidth, topNarrow) := s.indents.headD (0, 0)
  let mark (kind : TokenKind) (line cursor : Nat) : Token := ⟨kind, "", line, none, cursor⟩
  let line := if s.rest.isEmpty then s.lastLine else s.line
  let cursor := if s.rest.isEmpty then s.lastCursor else s.column
  let lineLength := s.column + (String.ofList (s.rest.takeWhile (· != '\n'))).utf8ByteSize + 1
  if width = topWidth then
    if narrow = topNarrow then .more { s with lineStart := false }
    else .done s.tokens (.mixedTabs line)
  else if topWidth < width then
    if maxIndents ≤ s.indents.length + 1 then .done s.tokens (.tooDeep line)
    else if narrow ≤ topNarrow then .done s.tokens (.mixedTabs line)
    else
      .more { s with
        lineStart := false
        indents := (width, narrow) :: s.indents
        tokens := s.tokens.push (mark .indent line cursor) }
  else
    let (kept, n) := closeIndents width s.indents
    let (keptWidth, keptNarrow) := kept.headD (0, 0)
    if width ≠ keptWidth then .done s.tokens (.badDedent line lineLength)
    else if narrow ≠ keptNarrow then .done s.tokens (.mixedTabs line)
    else
      .more { s with
        lineStart := false
        indents := kept
        tokens := s.tokens ++ Array.replicate n (mark .dedent line cursor) }

/-- The beginning of a line. Blank lines and lines with only a comment are skipped; inside brackets
the indentation of a line means nothing. -/
def scanLineStart (s : State) : Step :=
  match measureIndent s.left ⟨0, 0, 0⟩ s with
  | .inl stop => stop
  | .inr (indent, s) =>
    match s.rest with
    | '#' :: _ | '\n' :: _ =>
      .more (s.skipMany ((s.rest.takeWhile (· != '\n')).length + 1))
    | _ =>
      if s.brackets.isEmpty then
        let width := if indent.joined = 0 then indent.width else indent.joined
        let narrow := if indent.joined = 0 then indent.narrow else indent.joined
        s.indentTo width narrow
      else .more { s with lineStart := false }

/-- How much is left to do: the text ahead counts twice, a line start once. -/
def State.remaining (s : State) : Nat := 2 * s.left + (if s.lineStart then 1 else 0)

def run (s : State) : Tokens :=
  match if s.lineStart then scanLineStart s else scanToken s with
  | .done tokens ending => ⟨tokens, ending⟩
  | .more next => if _h : next.remaining < s.remaining then run next else ⟨next.tokens, .complete⟩
termination_by s.remaining

def endLastLine (text : List Char) : List Char :=
  if text.getLast? = some '\n' then text else text ++ ['\n']

end Lexer

def tokenize (text : List Char) : Tokens := Lexer.run (.initial (Lexer.endLastLine text))

end PluginBuild.Script
