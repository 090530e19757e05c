import PluginBuild.Decimal.Numeral
import PluginBuild.Json.Value
import PluginBuild.Text.Hex

/-!
Reading JSON. A value may be surrounded by blanks, tabs and line ends only; `NaN` and `Infinity`
count as numbers. Errors keep the text that was still ahead, from which their place is counted.
-/

namespace PluginBuild.Json

inductive Fault where
  | value
  | comma
  | colon
  | propertyName
  | endOfText
  | closingQuote
  | controlCharacter
  | escape
  | codeUnit
  | byteOrderMark
  deriving DecidableEq, Repr

def Fault.message : Fault → String
  | .value => "Expecting value"
  | .comma => "Expecting ',' delimiter"
  | .colon => "Expecting ':' delimiter"
  | .propertyName => "Expecting property name enclosed in double quotes"
  | .endOfText => "Extra data"
  | .closingQuote => "Unterminated string starting at"
  | .controlCharacter => "Invalid control character at"
  | .escape => "Invalid \\escape"
  | .codeUnit => "Invalid \\uXXXX escape"
  | .byteOrderMark => "Unexpected UTF-8 BOM (decode using utf-8-sig)"

/-- Why a text is not read: a fault with the text ahead of it, an integer with too many digits, or
too many brackets around a value. -/
inductive ReadError where
  | fault (f : Fault) (ahead : List Char)
  | tooManyDigits (digits : Nat)
  | tooNested (isObject : Bool)
  deriving DecidableEq, Repr

abbrev Reading (α : Type) : Type := Except ReadError (α × List Char)

def fail {α : Type} (f : Fault) (ahead : List Char) : Except ReadError α := .error (.fault f ahead)

def isSpace (c : Char) : Bool := c == ' ' || c == '\t' || c == '\n' || c == '\r'

def skipSpace (text : List Char) : List Char := text.dropWhile isSpace

def codeUnit? : List Char → Option (Nat × List Char)
  | a :: b :: c :: d :: rest =>
    match Text.hexDigit? a, Text.hexDigit? b, Text.hexDigit? c, Text.hexDigit? d with
    | some a, some b, some c, some d => some (((a * 16 + b) * 16 + c) * 16 + d, rest)
    | _, _, _, _ => none
  | _ => none

/-- The character of a code unit; half of a pair has none, and U+FFFD stands for it. -/
def charOfUnit (n : Nat) : Char :=
  if 0xD800 ≤ n ∧ n < 0xE000 then '\uFFFD' else Char.ofNat n

/-- The character that an escape by number writes; `ahead` begins with its `u`. Two escapes may
write the halves of one character. Something must follow an escape, if only the closing quote. -/
def unicodeEscape (ahead : List Char) : Reading Char :=
  match codeUnit? (ahead.drop 1) with
  | none => fail .codeUnit ahead
  | some (_, []) => fail .codeUnit ahead
  | some (high, rest) =>
    if 0xD800 ≤ high ∧ high < 0xDC00 ∧ rest.take 2 = ['\\', 'u'] ∧ 6 < rest.length then
      match codeUnit? (rest.drop 2) with
      | none => fail .codeUnit (rest.drop 1)
      | some (low, rest') =>
        if 0xDC00 ≤ low ∧ low < 0xE000 then
          .ok (Char.ofNat (0x10000 + (high - 0xD800) * 0x400 + (low - 0xDC00)), rest')
        else .ok (charOfUnit high, rest)
    else .ok (charOfUnit high, rest)

def escapedChar? : Char → Option Char
  | '"' => some '"'
  | '\\' => some '\\'
  | '/' => some '/'
  | 'b' => some '\x08'
  | 'f' => some '\x0c'
  | 'n' => some '\n'
  | 'r' => some '\r'
  | 't' => some '\t'
  | _ => none

/-- The characters of a string behind its opening quote; `start` is the text from the quote on. The
number bounds the characters to go. -/
def stringRest (start : List Char) : Nat → List Char → List Char → Reading (List Char)
  | 0, _, _ => fail .closingQuote start
  | fuel + 1, done, text =>
    match text with
    | [] => fail .closingQuote start
    | '"' :: rest => .ok (done.reverse, rest)
    | '\\' :: rest =>
      match rest with
      | [] => fail .closingQuote start
      | c :: after =>
        if c = 'u' then
          match unicodeEscape rest with
          | .error e => .error e
          | .ok (c, rest') => stringRest start fuel (c :: done) rest'
        else match escapedChar? c with
          | none => fail .escape text
          | some c => stringRest start fuel (c :: done) after
    | c :: rest =>
      if c.toNat < 32 then fail .controlCharacter text else stringRest start fuel (c :: done) rest

def string (text : List Char) : Reading String :=
  (stringRest text text.length [] (text.drop 1)).map fun (chars, rest) => (String.ofList chars, rest)

def maxDigits : Nat := 4300

def signed (isNegative : Bool) (bits : UInt64) : UInt64 :=
  if isNegative then bits ||| 0x8000000000000000 else bits

def fractionPart (text : List Char) : List Char × List Char :=
  match text with
  | '.' :: d :: rest =>
    if d.isDigit then (d :: rest.takeWhile Char.isDigit, rest.dropWhile Char.isDigit)
    else ([], text)
  | _ => ([], text)

def exponentPart (text : List Char) : List Char × List Char :=
  match text with
  | e :: rest =>
    if e = 'e' ∨ e = 'E' then
      let (sign, digits) := match rest with
        | c :: after => if c = '+' ∨ c = '-' then ([c], after) else ([], rest)
        | [] => ([], rest)
      let number := digits.takeWhile Char.isDigit
      if number.isEmpty then ([], text) else (sign ++ number, digits.dropWhile Char.isDigit)
    else ([], text)
  | [] => ([], text)

def number (text : List Char) : Reading Value :=
  let isNegative := text.head? == some '-'
  let body := if isNegative then text.drop 1 else text
  let whole := match body with
    | '0' :: _ => ['0']
    | _ => body.takeWhile Char.isDigit
  if whole.isEmpty then fail .value text
  else
    let (fraction, rest) := fractionPart (body.drop whole.length)
    let (exponent, rest) := exponentPart rest
    if fraction.isEmpty && exponent.isEmpty then
      if maxDigits < whole.length then .error (.tooManyDigits whole.length)
      else
        let n := Decimal.natOfDigits whole
        .ok (.int (if isNegative then -(n : Int) else n), rest)
    else
      let numeral : Decimal.Numeral := ⟨whole, fraction, Decimal.exponentOf exponent⟩
      .ok (.float (signed isNegative numeral.bits), rest)

def words : List (List Char × Value) :=
  [("null".toList, .null), ("true".toList, .bool true), ("false".toList, .bool false),
    ("NaN".toList, .float 0x7FF8000000000000), ("Infinity".toList, .float 0x7FF0000000000000),
    ("-Infinity".toList, .float 0xFFF0000000000000)]

def word? (text : List Char) : Option (Value × List Char) :=
  (words.find? fun (word, _) => text.take word.length == word).map fun (word, value) =>
    (value, text.drop word.length)

def maxNesting : Nat := 980

mutual

/-- The value at the head of a text. The first number bounds the steps to go, the second counts the
brackets around. -/
def value : Nat → Nat → List Char → Reading Value
  | 0, _, text => fail .value text
  | fuel + 1, depth, text =>
    match text with
    | '"' :: _ => (string text).map fun (s, rest) => (.string s, rest)
    | '\x7b' :: rest =>
      if maxNesting < depth then .error (.tooNested true)
      else
        let rest := skipSpace rest
        match rest with
        | '\x7d' :: rest => .ok (.object [], rest)
        | _ => members fuel (depth + 1) [] rest
    | '[' :: rest =>
      if maxNesting < depth then .error (.tooNested false)
      else
        let rest := skipSpace rest
        match rest with
        | ']' :: rest => .ok (.array [], rest)
        | _ => elements fuel (depth + 1) [] rest
    | _ =>
      match word? text with
      | some found => .ok found
      | none => number text

def elements : Nat → Nat → List Value → List Char → Reading Value
  | 0, _, _, text => fail .value text
  | fuel + 1, depth, done, text =>
    match value fuel depth text with
    | .error e => .error e
    | .ok (v, rest) =>
      let rest := skipSpace rest
      match rest with
      | ']' :: rest => .ok (.array (v :: done).reverse, rest)
      | ',' :: rest => elements fuel depth (v :: done) (skipSpace rest)
      | _ => fail .comma rest

def members : Nat → Nat → List (String × Value) → List Char → Reading Value
  | 0, _, _, text => fail .propertyName text
  | fuel + 1, depth, done, text =>
    match text with
    | '"' :: _ =>
      match string text with
      | .error e => .error e
      | .ok (key, rest) =>
        let rest := skipSpace rest
        match rest with
        | ':' :: rest =>
          match value fuel depth (skipSpace rest) with
          | .error e => .error e
          | .ok (v, rest) =>
            let rest := skipSpace rest
            let done := insertMember key v done
            match rest with
            | '\x7d' :: rest => .ok (.object done, rest)
            | ',' :: rest => members fuel depth done (skipSpace rest)
            | _ => fail .comma rest
        | _ => fail .colon rest
    | _ => fail .propertyName text

end

def parse (text : List Char) : Except ReadError Value :=
  match text with
  | '\uFEFF' :: _ => fail .byteOrderMark text
  | _ =>
    match value (2 * text.length + 2) 0 (skipSpace text) with
    | .error e => .error e
    | .ok (v, rest) =>
      let rest := skipSpace rest
      if rest.isEmpty then .ok v else fail .endOfText rest

def faultMessage (text : List Char) (f : Fault) (ahead : List Char) : String :=
  let place := text.length - ahead.length
  let before := text.take place
  let line := before.count '\n' + 1
  let column := (before.reverse.takeWhile (· != '\n')).length + 1
  s!"{f.message}: line {line} column {column} (char {place})"

end PluginBuild.Json
