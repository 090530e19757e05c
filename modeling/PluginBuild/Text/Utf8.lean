import PluginBuild.Text.Hex

/-!
UTF-8 with the ranges of faulty bytes. Reading a byte sequence gives one piece after the other: a
character, or a fault over the bytes that cannot begin or go on with one. Every byte belongs to
exactly one piece.
-/

namespace PluginBuild.Text

abbrev Bytes := List UInt8

def encodeChar (c : Char) : Bytes :=
  let n := c.toNat
  let tail (shift : Nat) : UInt8 := UInt8.ofNat (128 + n / shift % 64)
  if n < 0x80 then [UInt8.ofNat n]
  else if n < 0x800 then [UInt8.ofNat (192 + n / 64), tail 1]
  else if n < 0x10000 then [UInt8.ofNat (224 + n / 4096), tail 64, tail 1]
  else [UInt8.ofNat (240 + n / 262144), tail 4096, tail 64, tail 1]

def encodeUtf8 (s : String) : Bytes := s.toList.flatMap encodeChar

inductive Utf8Fault where
  | invalidStart
  | invalidContinuation
  | unexpectedEnd
  deriving DecidableEq, Repr

def Utf8Fault.message : Utf8Fault → String
  | .invalidStart => "invalid start byte"
  | .invalidContinuation => "invalid continuation byte"
  | .unexpectedEnd => "unexpected end of data"

inductive Utf8Piece where
  | char (c : Char) (more : Nat)
  | fault (f : Utf8Fault) (more : Nat)
  deriving DecidableEq, Repr

def Utf8Piece.more : Utf8Piece → Nat
  | .char _ more => more
  | .fault _ more => more

def isContinuation (b : UInt8) : Bool := 0x80 ≤ b.toNat && b.toNat < 0xC0

/-- The bytes that may come second after a first byte: continuation bytes, less those that would
give an overlong form, a surrogate or a number above the last code point. -/
def mayFollow (first second : UInt8) : Bool :=
  isContinuation second &&
    (first.toNat != 0xE0 || 0xA0 ≤ second.toNat) && (first.toNat != 0xED || second.toNat < 0xA0) &&
    (first.toNat != 0xF0 || 0x90 ≤ second.toNat) && (first.toNat != 0xF4 || second.toNat < 0x90)

def utf8Piece (first : UInt8) (rest : Bytes) : Utf8Piece :=
  let n := first.toNat
  if n < 0x80 then .char (Char.ofNat n) 0
  else if n < 0xC2 || 0xF5 ≤ n then .fault .invalidStart 0
  else match rest with
  | [] => .fault .unexpectedEnd 0
  | b :: rest =>
    if !mayFollow first b then .fault .invalidContinuation 0
    else if n < 0xE0 then .char (Char.ofNat ((n - 0xC0) * 64 + (b.toNat - 128))) 1
    else match rest with
    | [] => .fault .unexpectedEnd 1
    | c :: rest =>
      if !isContinuation c then .fault .invalidContinuation 1
      else if n < 0xF0 then
        .char (Char.ofNat (((n - 0xE0) * 64 + (b.toNat - 128)) * 64 + (c.toNat - 128))) 2
      else match rest with
      | [] => .fault .unexpectedEnd 2
      | d :: _ =>
        if !isContinuation d then .fault .invalidContinuation 2
        else
          .char (Char.ofNat
            ((((n - 0xF0) * 64 + (b.toNat - 128)) * 64 + (c.toNat - 128)) * 64 +
              (d.toNat - 128))) 3

def utf8Pieces : Bytes → List Utf8Piece
  | [] => []
  | first :: rest =>
    let piece := utf8Piece first rest
    piece :: utf8Pieces (rest.drop piece.more)
termination_by bytes => bytes.length
decreasing_by simp only [List.length_drop, List.length_cons]; omega

/-- Why bytes have no reading in an encoding: the encoding's name, the first byte of the faulty
stretch, its place and length, and the reason. -/
structure DecodeError where
  encoding : String
  byte : UInt8
  start : Nat
  length : Nat
  reason : String
  deriving DecidableEq, Repr

def DecodeError.message (e : DecodeError) : String :=
  if e.length = 1 then
    s!"'{e.encoding}' codec can't decode byte 0x{hexByte e.byte} in position {e.start}: {e.reason}"
  else
    s!"'{e.encoding}' codec can't decode bytes in position {e.start}-{e.start + e.length - 1}: " ++
      e.reason

def charsOfPieces (bytes : Bytes) : Nat → List Utf8Piece → Except DecodeError (List Char)
  | _, [] => .ok []
  | start, .char c more :: rest => (charsOfPieces bytes (start + more + 1) rest).map (c :: ·)
  | start, .fault f more :: _ =>
    .error ⟨"utf-8", bytes.getD start 0, start, more + 1, f.message⟩

def decodeUtf8 (bytes : Bytes) : Except DecodeError String :=
  (charsOfPieces bytes 0 (utf8Pieces bytes)).map String.ofList

def decodeUtf8Lossy (bytes : Bytes) : String :=
  String.ofList ((utf8Pieces bytes).map fun
    | .char c _ => c
    | .fault _ _ => '\uFFFD')

end PluginBuild.Text
