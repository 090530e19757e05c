import PluginBuild.Script.Node
import PluginBuild.Script.Lexer
import PluginBuild.Text.Compatibility

/-!
Reading tokens by grammar rules. A rule either reads a stretch of tokens, does not match, or finds a
fault that no other reading can mend. A rule that does not match leaves behind how far it has
looked, since the furthest token that was looked at is the one a message points to.

Rules call each other through `Deeper`, the rules one level further in. The level of nesting is
bounded, so reading ends.
-/

namespace PluginBuild.Script

/-- Where a fault is. Columns count from one, in characters or in bytes of the line. -/
inductive Column where
  | chars (n : Nat)
  | bytes (n : Nat)
  deriving DecidableEq, Repr

inductive Stop where
  | mismatch
  | ending
  | fault (message : String) (line : Nat) (column : Column) (isIndentation : Bool)
  | tooDeep
  deriving DecidableEq, Repr

structure Cursor where
  tokens : Tokens
  place : Nat
  seen : Nat

abbrev Read (α : Type) : Type := EStateM Stop Cursor α

namespace Read

def mismatch {α : Type} : Read α := throw .mismatch

/-- The next token, which counts as looked at. Behind the last token of a text that is no complete
sequence of tokens lies its fault. -/
def peek : Read Token := fun c =>
  match c.tokens.list[c.place]? with
  | some t => .ok t { c with seen := max c.seen (c.place + 1) }
  | none => .error .ending { c with seen := max c.seen c.place }

def peekSecond : Read Token := fun c =>
  match c.tokens.list[c.place + 1]? with
  | some t => .ok t { c with seen := max c.seen (c.place + 2) }
  | none => .error .ending { c with seen := max c.seen (c.place + 1) }

def advance : Read Unit := modify fun c => { c with place := c.place + 1 }

def attempt {α : Type} (rule : Read α) : Read (Option α) := fun c =>
  match rule c with
  | .ok a c' => .ok (some a) c'
  | .error .mismatch c' => .ok none { c with seen := c'.seen }
  | .error stop c' => .error stop c'

def ahead : Read Nat := do
  let c ← get
  return c.tokens.list.size - c.place

def repeatWhile {α : Type} (step : α → Read (Option α)) : Nat → α → Read α
  | 0, a => pure a
  | n + 1, a => do
    match ← step a with
    | none => pure a
    | some b => repeatWhile step n b

def fold {α : Type} (start : α) (step : α → Read (Option α)) : Read α := do
  repeatWhile step ((← ahead) + 1) start

end Read

def Token.is (t : Token) (spelling : String) : Bool :=
  (t.kind == .op || t.kind == .keyword) && t.text == spelling

def Token.isSoft (t : Token) (spelling : String) : Bool := t.kind == .name && t.text == spelling

def Token.pos (t : Token) : Pos := ⟨t.line, t.column.getD 0⟩

def Token.messageColumn (t : Token) : Column :=
  match t.column with
  | some column => .bytes (column + 1)
  | none => .bytes t.cursor

namespace Read

def isNext (spelling : String) : Read Bool := do return (← peek).is spelling

def accept (spelling : String) : Read Bool := do
  if (← peek).is spelling then
    advance
    return true
  return false

def expect (spelling : String) : Read Unit := do
  if !(← accept spelling) then mismatch

def expectKind (kind : TokenKind) : Read Token := do
  let t ← peek
  if t.kind = kind then
    advance
    return t
  mismatch

def identifier : Read String := do return identifierOf (← expectKind .name).text

def isNameBefore (spelling : String) : Read Bool := do
  if (← peek).kind = .name then return (← peekSecond).is spelling
  return false

def here : Read Pos := do return (← peek).pos

def faultAt {α : Type} (t : Token) (message : String) : Read α :=
  throw (.fault message t.line t.messageColumn false)

def furthest : Read Token := do
  let c ← get
  return (c.tokens.list[c.seen - 1]?).getD default

def faultHere {α : Type} (message : String) : Read α := do faultAt (← furthest) message

def indentationFault {α : Type} (message : String) : Read α := do
  let t ← furthest
  throw (.fault message t.line t.messageColumn true)

/-- Elements after the first, each behind a comma, and whether a comma ends them. `starts` tells
whether another element follows a comma; `done` holds the elements so far in reverse. -/
def commaRest {α : Type} (starts : Token → Bool) (element : Read α) (done : List α) :
    Read (List α × Bool) := do
  let (reversed, trailing) ← fold (done, false) fun (done, trailing) => do
    if trailing then return none
    if !(← accept ",") then return none
    if starts (← peek) then return some ((← element) :: done, false)
    return some (done, true)
  return (reversed.reverse, trailing)

def commaList {α : Type} (starts : Token → Bool) (element : Read α) : Read (List α × Bool) := do
  commaRest starts element [← element]

end Read

inductive Rule where
  | expression
  | inversion
  | factor
  | pattern
  | block

abbrev Rule.Result : Rule → Type
  | .expression => Expr
  | .inversion => Expr
  | .factor => Expr
  | .pattern => Pattern
  | .block => List Stmt

abbrev Deeper : Type := (rule : Rule) → Read rule.Result

end PluginBuild.Script
