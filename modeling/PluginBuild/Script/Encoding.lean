import PluginBuild.Platform
import PluginBuild.Text.Lines
import PluginBuild.Text.Quoted

/-!
How the bytes of a source file become text. A byte order mark means UTF-8; a comment in the first
line, or in the second if the first is blank or a comment, may declare an encoding.
-/

namespace PluginBuild.Script

open PluginBuild.Text

inductive EncodingError where
  | unreadable
  | unknown (name : String)
  | contradictsMark
  | undecodable (e : DecodeError)
  | notForText (name : String)
  | failed (message : String)
  deriving DecidableEq, Repr

def EncodingError.message : EncodingError → String
  | .unreadable => "invalid or missing encoding declaration"
  | .unknown name => s!"unknown encoding: {name}"
  | .contradictsMark => "encoding problem: utf-8"
  | .undecodable e => e.message
  | .notForText name =>
    s!"{quoted name} is not a text encoding; use codecs.decode() to handle arbitrary codecs"
  | .failed message => message

def EncodingError.ofFault (name : String) : CodecFault → EncodingError
  | .undecodable e => .undecodable e
  | .notForText => .notForText name
  | .failed message => .failed message

structure Declaration where
  name : String
  codec : Codec
  hasMark : Bool
  isDeclared : Bool

def isEncodingChar (c : Char) : Bool :=
  c.isAlphanum || c == '_' || c == '-' || c == '.'

def codingAt? (text : List Char) : Option String :=
  if text.take 6 != "coding".toList then none
  else match text.drop 6 with
    | mark :: rest =>
      let name := (rest.dropWhile fun c => c == ' ' || c == '\t').takeWhile isEncodingChar
      if (mark == ':' || mark == '=') && !name.isEmpty then some (String.ofList name) else none
    | [] => none

def codingIn? : List Char → Option String
  | [] => none
  | c :: rest =>
    match codingAt? (c :: rest) with
    | some name => some name
    | none => codingIn? rest

def isCodingSpace (c : Char) : Bool := c == ' ' || c == '\t' || c == '\x0c'

def declaredIn? (line : List Char) : Option String :=
  match line.dropWhile isCodingSpace with
  | '#' :: comment => codingIn? (comment.takeWhile (· != '\n'))
  | _ => none

def isBlankLine (line : Bytes) : Bool :=
  match line.dropWhile fun b => b == 0x20 || b == 0x09 || b == 0x0C with
  | [] => true
  | b :: _ => b == 0x23 || b == 0x0A || b == 0x0D

def usualName (name : String) : String :=
  let short := ((name.toList.take 12).map Char.toLower).map fun c => if c = '_' then '-' else c
  let isA (usual : String) : Bool :=
    short == usual.toList || short.take (usual.length + 1) == usual.toList ++ ['-']
  if isA "utf-8" then "utf-8"
  else if isA "latin-1" || isA "iso-8859-1" || isA "iso-latin-1" then "iso-8859-1"
  else name

def splitFirstLine (bytes : Bytes) : Bytes × Bytes :=
  let line := bytes.takeWhile (· != 0x0A)
  (bytes.take (line.length + 1), bytes.drop (line.length + 1))

def byteOrderMark : Bytes := [0xEF, 0xBB, 0xBF]

def declaredBy (codec? : String → Option Codec) (hasMark : Bool) (line : Bytes) :
    Except EncodingError (Option (String × Codec)) :=
  match decodeUtf8 line with
  | .error _ => .error .unreadable
  | .ok text =>
    match declaredIn? text.toList with
    | none => .ok none
    | some name =>
      let name := usualName name
      match if name = "utf-8" then some Codec.utf8 else codec? name with
      | none => .error (.unknown name)
      | some codec =>
        if hasMark && name != "utf-8" then .error .contradictsMark else .ok (some (name, codec))

def Declaration.read (codec? : String → Option Codec) (bytes : Bytes) :
    Except EncodingError Declaration := do
  let hasMark := bytes.take 3 == byteOrderMark
  let body := if hasMark then bytes.drop 3 else bytes
  let undeclared : Declaration := ⟨"utf-8", .utf8, hasMark, false⟩
  let (first, rest) := splitFirstLine body
  if first.isEmpty then return undeclared
  if let some (name, codec) ← declaredBy codec? hasMark first then
    return ⟨name, codec, hasMark, true⟩
  if !isBlankLine first then return undeclared
  let (second, _) := splitFirstLine rest
  if second.isEmpty then return undeclared
  if let some (name, codec) ← declaredBy codec? hasMark second then
    return ⟨name, codec, hasMark, true⟩
  return undeclared

structure SourceText where
  chars : List Char
  isMarked : Bool

def SourceText.decode (codec? : String → Option Codec) (bytes : Bytes) :
    Except EncodingError SourceText := do
  let declaration ← Declaration.read codec? bytes
  let body := if declaration.hasMark then bytes.drop 3 else bytes
  match declaration.codec body with
  | .error fault => throw (.ofFault declaration.name fault)
  | .ok chars => return ⟨chars, declaration.hasMark || declaration.isDeclared⟩

/-- The text as it is shown: line ends are line feeds. A carriage return at the very end might be
half of a line end, and does not count. -/
def SourceText.shown (s : SourceText) : String :=
  let chars := if s.chars.getLast? = some '\r' then s.chars.dropLast else s.chars
  String.ofList (normalizeNewlines chars)

def SourceText.parsed (s : SourceText) : List Char := normalizeNewlines s.chars

end PluginBuild.Script
