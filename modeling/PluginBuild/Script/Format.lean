import PluginBuild.Script.Literal

/-!
Formatted string literals. The body of one is cut into literal texts and replacement fields, which
hold the text of an expression and may hold a conversion and a format, itself a body of this kind.
Expressions are only delimited here; the grammar reads them later.
-/

namespace PluginBuild.Script

structure Spot where
  rest : List Char
  pos : Pos

def Spot.next (s : Spot) : Spot :=
  match s.rest with
  | [] => s
  | c :: rest =>
    if c = '\n' then ⟨rest, ⟨s.pos.line + 1, 0⟩⟩
    else ⟨rest, ⟨s.pos.line, s.pos.column + c.utf8Size⟩⟩

def Spot.forward : Nat → Spot → Spot
  | 0, s => s
  | n + 1, s => forward n s.next

/-- A piece of a formatted string. A field records where its opening brace stands, and the text that
is shown in front of its value if it asks for that. -/
inductive FormatPart where
  | literal (text : List Char)
  | field (brace : Pos) (expression : List Char) (shown : Option (List Char))
      (conversion : Option Char) (spec : Option (List FormatPart))

/-- Characters of the literal text up to a brace, with the state behind it; `true` if a doubled
brace ended it and more literal text follows. In a nested body braces are never doubled. -/
def literalText (isRaw nested : Bool) :
    Nat → List Char → Spot → Except String (List Char × Bool × Spot)
  | 0, done, s => .ok (done.reverse, false, s)
  | fuel + 1, done, s =>
    match s.rest with
    | [] => .ok (done.reverse, false, s)
    | c :: rest =>
      let brace (done : List Char) (s : Spot) (c : Char) :
          Except String (Option (List Char × Bool × Spot)) :=
        if c = '\x7b' ∨ c = '\x7d' then
          if !nested && s.next.rest.head? == some c then
            .ok (some ((c :: done).reverse, true, s.next.next))
          else if !nested && c == '\x7d' then .error "f-string: single '\x7d' is not allowed"
          else .ok (some (done.reverse, false, s))
        else .ok none
      if !isRaw && c == '\\' then
        match rest with
        | [] => literalText isRaw nested fuel (c :: done) s.next
        | 'N' :: '\x7b' :: name =>
          let count := min (name.length + 3) ((name.takeWhile (· != '\x7d')).length + 4)
          literalText isRaw nested fuel ((s.rest.take count).reverse ++ done) (s.forward count)
        | 'N' :: _ :: _ =>
          literalText isRaw nested fuel ((s.rest.take 3).reverse ++ done) (s.forward 3)
        | d :: _ =>
          match brace (c :: done) s.next d with
          | .error message => .error message
          | .ok (some found) => .ok found
          | .ok none => literalText isRaw nested fuel (d :: c :: done) s.next.next
      else match brace done s c with
        | .error message => .error message
        | .ok (some found) => .ok found
        | .ok none => literalText isRaw nested fuel (c :: done) s.next

/-- The scan of a field's expression: the string it is inside of, by quote and size, and the
brackets that are open. -/
structure FieldScan where
  inside : Option (Char × Nat)
  brackets : List Char

def expressionText : Nat → FieldScan → List Char → Spot → Except String (List Char × Spot)
  | 0, _, done, s => .ok (done.reverse, s)
  | fuel + 1, scan, done, s =>
    match s.rest with
    | [] =>
      match scan.inside, scan.brackets with
      | some _, _ => .error "f-string: unterminated string"
      | none, b :: _ => .error s!"f-string: unmatched '{b}'"
      | none, [] => .error "f-string: expecting '\x7d'"
    | c :: rest =>
      let go (scan : FieldScan) (count : Nat) : Except String (List Char × Spot) :=
        expressionText fuel scan ((s.rest.take count).reverse ++ done) (s.forward count)
      let tripled := rest.take 2 == [c, c] && 2 < rest.length
      if c = '\\' then .error "f-string expression part cannot include a backslash"
      else match scan.inside with
      | some (quote, size) =>
        if c = quote then
          if size = 1 then go { scan with inside := none } 1
          else if tripled then go { scan with inside := none } 3
          else go scan 1
        else go scan 1
      | none =>
        if c = '\'' ∨ c = '"' then
          if tripled then go { scan with inside := some (c, 3) } 3
          else go { scan with inside := some (c, 1) } 1
        else if c = '[' ∨ c = '\x7b' ∨ c = '(' then
          go { scan with brackets := c :: scan.brackets } 1
        else if c = '#' then .error "f-string expression part cannot include '#'"
        else if scan.brackets.isEmpty && ['!', ':', '\x7d', '=', '<', '>'].contains c then
          if ['!', '=', '<', '>'].contains c && rest.head? == some '=' && !rest.isEmpty then go scan 2
          else if c = '<' ∨ c = '>' then go scan 1
          else .ok (done.reverse, s)
        else if c = ']' ∨ c = '\x7d' ∨ c = ')' then
          match scan.brackets with
          | [] => .error s!"f-string: unmatched '{c}'"
          | b :: outer =>
            if (b == '(' && c == ')') || (b == '[' && c == ']') || (b == '\x7b' && c == '\x7d') then
              go { scan with brackets := outer } 1
            else
              .error <|
                s!"f-string: closing parenthesis '{c}' does not match opening parenthesis '{b}'"
        else go scan 1

def isExpressionSpace (c : Char) : Bool := c == ' ' || c == '\t' || c == '\n' || c == '\x0c'

def isShownSpace (c : Char) : Bool := isExpressionSpace c || c == '\x0b' || c == '\r'

def formatParts (isRaw : Bool) (depth : Nat) :
    Nat → Spot → Except String (List FormatPart × Spot)
  | 0, s => .ok ([], s)
  | fuel + 1, s => do
    let (text, doubled, s) ← literalText isRaw (depth != 0) (s.rest.length + 1) [] s
    let before := if text.isEmpty then [] else [FormatPart.literal text]
    if doubled then
      let (parts, s) ← formatParts isRaw depth fuel s
      return (before ++ parts, s)
    match s.rest with
    | '\x7b' :: _ =>
      if 2 ≤ depth then throw "f-string: expressions nested too deeply"
      let brace := s.pos
      let start := s.next
      let (expression, s) ← expressionText (s.rest.length + 1) ⟨none, []⟩ [] start
      if expression.all isExpressionSpace then
        match s.rest with
        | '!' :: _ => throw "f-string: expression required before '!'"
        | ':' :: _ => throw "f-string: expression required before ':'"
        | '=' :: _ => throw "f-string: expression required before '='"
        | _ => throw "f-string: empty expression not allowed"
      let (shown, s) := match s.rest with
        | '=' :: rest =>
          let count := (rest.takeWhile isShownSpace).length + 1
          (some (expression ++ s.rest.take count), s.forward count)
        | _ => (none, s)
      let (conversion, s) ← match s.rest with
        | '!' :: c :: _ =>
          if c = 's' ∨ c = 'r' ∨ c = 'a' then pure (some c, s.next.next)
          else throw "f-string: invalid conversion character: expected 's', 'r', or 'a'"
        | '!' :: [] => throw "f-string: expecting '\x7d'"
        | _ => pure (none, s)
      let (spec, s) ← match s.rest with
        | ':' :: _ => do
          let (parts, s) ← formatParts isRaw (depth + 1) fuel s.next
          pure (some parts, s)
        | _ => pure (none, s)
      match s.rest with
      | '\x7d' :: _ =>
        let (parts, s) ← formatParts isRaw depth fuel s.next
        return (before ++ .field brace expression shown conversion spec :: parts, s)
      | _ => throw "f-string: expecting '\x7d'"
    | _ => return (before, s)

def splitFormat (isRaw : Bool) (start : Pos) (body : List Char) : Except String (List FormatPart) :=
  (formatParts isRaw 0 (body.length + 1) ⟨body, start⟩).map (·.1)

end PluginBuild.Script
