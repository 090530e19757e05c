import PluginBuild.Script.Grammar.Stmt
import PluginBuild.Text.Pieces

/-!
From the text of a script to its tree, or to the one error that is reported for it. Where the
grammar fails, a faulty spelling further on goes first, and so does a bracket that was left open on
an earlier line.
-/

namespace PluginBuild.Script

inductive SyntaxErrorKind where
  | plain
  | indentation
  | tabs
  deriving DecidableEq, Repr

/-- An error in a script's text with its line and its column, both counted from one. Column zero
stands for an unknown one. -/
structure SyntaxError where
  kind : SyntaxErrorKind
  message : String
  line : Nat
  column : Nat
  deriving DecidableEq, Repr

inductive ParseError where
  | invalid (e : SyntaxError)
  | nullCharacter
  | tooNested
  | tooDeep
  deriving DecidableEq, Repr

def ParseError.message : ParseError → String
  | .invalid e => e.message
  | .nullCharacter => "source code string cannot contain null bytes"
  | .tooNested => ""
  | .tooDeep => "maximum recursion depth exceeded during ast construction"

def maxTreeDepth : Nat := 2980

/-- How many characters of a line begin within so many bytes. A column behind the line's end counts
once more. -/
def charsWithin (line : List Char) (bytes : Nat) : Nat :=
  match line with
  | [] => if bytes = 0 then 0 else 1
  | c :: rest => if bytes = 0 then 0 else 1 + charsWithin rest (bytes - c.utf8Size)

def Column.resolve (text : List Char) (inChars : Bool) (line : Nat) : Column → Nat
  | .chars n => n
  | .bytes n =>
    if inChars then charsWithin ((Text.pieces '\n' text).getD (line - 1) [] ++ ['\n']) n else n

def Ending.error (resolve : Nat → Column → Nat) : Ending → SyntaxError
  | .complete => ⟨.plain, "invalid syntax", 1, 0⟩
  | .misspelt e line column => ⟨.plain, e.message, line, column⟩
  | .unclosed bracket line column _ =>
    ⟨.plain, s!"'{bracket}' was never closed", line, resolve line (.bytes (column + 1))⟩
  | .badDedent line cursor =>
    ⟨.indentation, "unindent does not match any outer indentation level", line,
      resolve line (.bytes cursor)⟩
  | .mixedTabs line =>
    ⟨.tabs, "inconsistent use of tabs and spaces in indentation", line, 1⟩
  | .tooDeep line => ⟨.indentation, "too many levels of indentation", line, 1⟩
  | .strayBackslash line column =>
    ⟨.plain, "unexpected character after line continuation character", line,
      resolve line (.bytes column)⟩
  | .endsInBackslash line cursor =>
    ⟨.plain, "unexpected EOF while parsing", line, resolve line (.bytes cursor)⟩

/-- The error that goes before one of the grammar on a line: a faulty spelling anywhere, or a bracket
left open on an earlier line. -/
def Ending.goesFirst (resolve : Nat → Column → Nat) (line : Nat) : Ending → Option SyntaxError
  | .misspelt e l column => some (Ending.error resolve (.misspelt e l column))
  | .unclosed bracket l column last =>
    if l < line then some (Ending.error resolve (.unclosed bracket l column last)) else none
  | _ => none

def errorOf (resolve : Nat → Column → Nat) (tokens : Tokens) (stop : Stop) (seen : Nat) :
    ParseError :=
  let last := (tokens.list[seen - 1]?).getD default
  let unlessEarlier (e : SyntaxError) : ParseError :=
    .invalid ((tokens.ending.goesFirst resolve last.line).getD e)
  match stop with
  | .tooDeep => .tooNested
  | .ending => .invalid (tokens.ending.error resolve)
  | .fault message line column isIndentation =>
    unlessEarlier
      ⟨if isIndentation then .indentation else .plain, message, line, resolve line column⟩
  | .mismatch =>
    let indentation (message : String) : ParseError :=
      .invalid ⟨.indentation, message, last.line, resolve last.line (.bytes last.cursor)⟩
    match last.kind with
    | .indent => indentation "unexpected indent"
    | .dedent => indentation "unexpected unindent"
    | .finish => unlessEarlier ⟨.plain, "invalid syntax", last.line, 0⟩
    | _ =>
      unlessEarlier
        ⟨.plain, "invalid syntax", last.line, resolve last.line last.messageColumn⟩

/-- The tree of a text whose lines end in line feeds. Columns of errors that the grammar finds are
in characters if `inChars` says so, and in bytes otherwise. -/
def Module.parse (text : List Char) (inChars : Bool) : Except ParseError Module :=
  if text.contains '\x00' then .error .nullCharacter
  else
    let tokens := tokenize text
    match moduleRule ⟨tokens, 0, 0⟩ with
    | .ok m _ => if m.nodes.any (Node.isDeeperThan maxTreeDepth) then .error .tooDeep else .ok m
    | .error stop c => .error (errorOf (fun line c => c.resolve text inChars line) tokens stop c.seen)

end PluginBuild.Script
