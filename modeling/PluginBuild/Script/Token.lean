import PluginBuild.Text.Compatibility
import PluginBuild.Text.Identifier
import PluginBuild.Text.Printable

/-!
Tokens of a script, and what can be wrong with its text before any grammar is applied. A line of
the source gives name, number, string and operator tokens and a newline token; the indentation of a
line gives indent and dedent tokens before it.
-/

namespace PluginBuild.Script

inductive TokenKind where
  | name
  | keyword
  | number
  | string
  | op
  | newline
  | indent
  | dedent
  | finish
  deriving DecidableEq, Repr, Inhabited

/-- A token with its text and where it begins. Indents, dedents and the end have no text and no
column of their own; for them `cursor` tells how many bytes of the line lie before what follows. -/
structure Token where
  kind : TokenKind
  text : String
  line : Nat
  column : Option Nat
  cursor : Nat
  deriving Repr, Inhabited

def keywords : List String :=
  ["False", "None", "True", "and", "as", "assert", "async", "await", "break", "class", "continue",
    "def", "del", "elif", "else", "except", "finally", "for", "from", "global", "if", "import",
    "in", "is", "lambda", "nonlocal", "not", "or", "pass", "raise", "return", "try", "while",
    "with", "yield"]

def isKeyword (s : String) : Bool := keywords.contains s

/-- The identifier that a name token stands for: names are the same if their compatibility forms
are. -/
def identifierOf (word : String) : String :=
  if word.toList.all (·.toNat < 128) then word else Text.compatibilityForm word

inductive NumberKind where
  | hexadecimal
  | octal
  | binary
  | decimal
  | imaginary
  deriving DecidableEq, Repr

def NumberKind.name : NumberKind → String
  | .hexadecimal => "hexadecimal"
  | .octal => "octal"
  | .binary => "binary"
  | .decimal => "decimal"
  | .imaginary => "imaginary"

/-- A faulty spelling: characters that form no token, or brackets that do not pair. -/
inductive SpellingError where
  | badCharacter (c : Char)
  | unterminatedString (triple : Bool) (detected : Nat)
  | badNumber (kind : NumberKind)
  | badDigit (kind : NumberKind) (digit : Char)
  | leadingZeros
  | unmatched (close : Char)
  | mismatched (close opened : Char) (line : Option Nat)
  | tooManyBrackets
  deriving DecidableEq, Repr

def codePointText (c : Char) : String :=
  let digits := (Nat.toDigits 16 c.toNat).map Char.toUpper
  String.ofList (List.replicate (4 - digits.length) '0' ++ digits)

def SpellingError.message : SpellingError → String
  | .badCharacter c =>
    if Text.isPrintable c then s!"invalid character '{c}' (U+{codePointText c})"
    else s!"invalid non-printable character U+{codePointText c}"
  | .unterminatedString true n =>
    s!"unterminated triple-quoted string literal (detected at line {n})"
  | .unterminatedString false n => s!"unterminated string literal (detected at line {n})"
  | .badNumber kind => s!"invalid {kind.name} literal"
  | .badDigit kind digit => s!"invalid digit '{digit}' in {kind.name} literal"
  | .leadingZeros =>
    "leading zeros in decimal integer literals are not permitted; " ++
      "use an 0o prefix for octal integers"
  | .unmatched close => s!"unmatched '{close}'"
  | .mismatched close opened none =>
    s!"closing parenthesis '{close}' does not match opening parenthesis '{opened}'"
  | .mismatched close opened (some line) =>
    s!"closing parenthesis '{close}' does not match opening parenthesis '{opened}' on line {line}"
  | .tooManyBrackets => "too many nested parentheses"

/-- How the tokens of a text end. A faulty spelling has its line and its column, counted from one
in characters; it is reported wherever the grammar fails. The other faults matter only if the
grammar gets as far as them. -/
inductive Ending where
  | complete
  | misspelt (e : SpellingError) (line column : Nat)
  | unclosed (bracket : Char) (line column lastLine : Nat)
  | badDedent (line cursor : Nat)
  | mixedTabs (line : Nat)
  | tooDeep (line : Nat)
  | strayBackslash (line column : Nat)
  | endsInBackslash (line cursor : Nat)
  deriving DecidableEq, Repr

structure Tokens where
  list : Array Token
  ending : Ending

end PluginBuild.Script
