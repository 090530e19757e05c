import PluginBuild.Decimal.Numeral
import PluginBuild.Script.Tree
import PluginBuild.Text.Name

/-!
The values of number and string literals. A string literal has letters that mark its kind, quotes
and a body; escapes in the body are resolved unless it is raw.
-/

namespace PluginBuild.Script

open PluginBuild.Text

def maxIntegerDigits : Nat := 4300

def natOfBase (base : Nat) (digits : List Char) : Nat :=
  digits.foldl (fun n c =>
    base * n + (if c.isDigit then c.toNat - 48 else c.toLower.toNat - 87)) 0

def numberValue (literal : String) : Except Nat Constant :=
  let digits := literal.toList.filter (· != '_')
  match digits.map Char.toLower with
  | '0' :: 'x' :: rest => .ok (.int (natOfBase 16 rest))
  | '0' :: 'o' :: rest => .ok (.int (natOfBase 8 rest))
  | '0' :: 'b' :: rest => .ok (.int (natOfBase 2 rest))
  | lower =>
    if lower.getLast? = some 'j' then
      .ok (.imaginary (Decimal.Numeral.read lower.dropLast).bits)
    else if lower.any fun c => c == '.' || c == 'e' then .ok (.float (Decimal.Numeral.read lower).bits)
    else if maxIntegerDigits < lower.length then .error lower.length
    else .ok (.int (Decimal.natOfDigits lower))

def tooManyDigitsMessage (n : Nat) : String :=
  s!"Exceeds the limit ({maxIntegerDigits} digits) for integer string conversion: " ++
    s!"value has {n} digits; use sys.set_int_max_str_digits() to increase the limit"

structure StringLiteral where
  isBytes : Bool
  isRaw : Bool
  isFormat : Bool
  marks : List Char
  body : List Char
  bodyStart : Nat

def StringLiteral.read (literal : String) : StringLiteral :=
  let text := literal.toList
  let marks := text.takeWhile Char.isAlpha
  let quoted := text.drop marks.length
  let quotes := match quoted with
    | a :: b :: c :: _ :: _ :: _ => if a == b && b == c then 3 else 1
    | _ => 1
  let has (c : Char) : Bool := marks.any fun m => m.toLower == c
  { isBytes := has 'b'
    isRaw := has 'r'
    isFormat := has 'f'
    marks := marks
    body := (quoted.drop quotes).take (quoted.length - 2 * quotes)
    bodyStart := marks.length + quotes }

/-- What is wrong with an escape in a text, with the faulty stretch in the escaped form, in which a
character outside ASCII takes ten places. -/
structure EscapeError where
  first : Nat
  last : Nat
  reason : String

def EscapeError.message (e : EscapeError) : String :=
  let codec := "(unicode error) 'unicodeescape' codec can't decode "
  if e.first = e.last then s!"{codec}byte 0x5c in position {e.first}: {e.reason}"
  else s!"{codec}bytes in position {e.first}-{e.last}: {e.reason}"

/-- The character of a number; a surrogate has none, and U+FFFD stands for it. -/
def charOfNumber (n : Nat) : Char :=
  if 0xD800 ≤ n ∧ n < 0xE000 then '\uFFFD' else Char.ofNat n

def isHexadecimal (c : Char) : Bool :=
  c.isDigit || ('a' ≤ c && c ≤ 'f') || ('A' ≤ c && c ≤ 'F')

def simpleEscape? : Char → Option Char
  | '\\' => some '\\'
  | '\'' => some '\''
  | '"' => some '"'
  | 'a' => some '\x07'
  | 'b' => some '\x08'
  | 'f' => some '\x0c'
  | 'n' => some '\n'
  | 'r' => some '\r'
  | 't' => some '\t'
  | 'v' => some '\x0b'
  | _ => none

def octalDigits (text : List Char) : List Char :=
  (text.take 3).takeWhile fun c => '0' ≤ c && c ≤ '7'

def escapedWidth (text : List Char) : Nat :=
  text.foldl (fun width c => width + if c.toNat < 128 then 1 else 10) 0

/-- Resolves the escapes of a text. `place` is the place in the escaped form. The number bounds the
characters to go. -/
def unescapeText : Nat → Nat → List Char → Except EscapeError (List Char)
  | 0, _, _ => .ok []
  | _, _, [] => .ok []
  | fuel + 1, place, '\\' :: rest =>
    match rest with
    | [] => .ok ['\\']
    | c :: after =>
      let wide (width : Nat) (name : String) : Except EscapeError (List Char) :=
        let digits := (after.take width).takeWhile isHexadecimal
        if digits.length < width then
          .error ⟨place, place + 1 + digits.length, s!"truncated \\{name} escape"⟩
        else
          let n := natOfBase 16 digits
          if 0x110000 ≤ n then .error ⟨place, place + 1 + width, "illegal Unicode character"⟩
          else (unescapeText fuel (place + 2 + width) (after.drop width)).map (charOfNumber n :: ·)
      if c = '\n' then unescapeText fuel (place + 2) after
      else match simpleEscape? c with
      | some e => (unescapeText fuel (place + 2) after).map (e :: ·)
      | none =>
        let octal := octalDigits rest
        if !octal.isEmpty then
          (unescapeText fuel (place + 1 + octal.length) (rest.drop octal.length)).map
            (Char.ofNat (natOfBase 8 octal) :: ·)
        else if c = 'x' then wide 2 "xXX"
        else if c = 'u' then wide 4 "uXXXX"
        else if c = 'U' then wide 8 "UXXXXXXXX"
        else if c = 'N' then
          let name := after.takeWhile (· != '\x7d')
          if after.head? = some '\x7b' ∧ 1 < name.length ∧ name.length < after.length then
            let closing := place + 2 + escapedWidth name
            match numberOfName? (name.drop 1) with
            | none => .error ⟨place, closing, "unknown Unicode character name"⟩
            | some n =>
              (unescapeText fuel (closing + 1) (after.drop (name.length + 1))).map
                (charOfNumber n :: ·)
          else .error ⟨place, place + 1, "malformed \\N character escape"⟩
        else if c.toNat < 128 then
          (unescapeText fuel (place + 2) after).map fun text => '\\' :: c :: text
        else (unescapeText fuel (place + 6) rest).map ('\\' :: ·)
  | fuel + 1, place, c :: rest =>
    (unescapeText fuel (place + escapedWidth [c]) rest).map (c :: ·)

def textValue (isRaw : Bool) (body : List Char) : Except EscapeError (List Char) :=
  if isRaw || !body.contains '\\' then .ok body else unescapeText body.length 0 body

def unescapeBytes : Nat → Nat → List Char → Except Nat Bytes
  | 0, _, _ => .ok []
  | _, _, [] => .ok []
  | fuel + 1, place, '\\' :: rest =>
    match rest with
    | [] => .ok [0x5C]
    | c :: after =>
      if c = '\n' then unescapeBytes fuel (place + 2) after
      else match simpleEscape? c with
      | some e => (unescapeBytes fuel (place + 2) after).map (UInt8.ofNat e.toNat :: ·)
      | none =>
        let octal := octalDigits rest
        if !octal.isEmpty then
          (unescapeBytes fuel (place + 1 + octal.length) (rest.drop octal.length)).map
            (UInt8.ofNat (natOfBase 8 octal) :: ·)
        else if c = 'x' then
          let digits := (after.take 2).takeWhile isHexadecimal
          if digits.length < 2 then .error place
          else
            (unescapeBytes fuel (place + 4) (after.drop 2)).map
              (UInt8.ofNat (natOfBase 16 digits) :: ·)
        else (unescapeBytes fuel (place + 2) after).map fun bytes => 0x5C :: UInt8.ofNat c.toNat :: bytes
  | fuel + 1, place, c :: rest =>
    (unescapeBytes fuel (place + 1) rest).map (UInt8.ofNat c.toNat :: ·)

def bytesValue (isRaw : Bool) (body : List Char) : Except Nat Bytes :=
  if isRaw then .ok (body.map fun c => UInt8.ofNat c.toNat) else unescapeBytes body.length 0 body

end PluginBuild.Script
