import PluginBuild.Script.Encoding

/-!
Encodings that stand for one character with each byte, under their usual names.
-/

namespace PluginBuild

open PluginBuild.Text

def Codec.bytewise (char? : UInt8 → Option Char) (encoding reason : String) : Codec := fun bytes =>
  let rec charsFrom : Nat → Bytes → Except CodecFault (List Char)
    | _, [] => .ok []
    | place, b :: rest =>
      match char? b with
      | none => .error (.undecodable ⟨encoding, b, place, 1, reason⟩)
      | some c => (charsFrom (place + 1) rest).map (c :: ·)
  charsFrom 0 bytes

def Codec.ascii : Codec :=
  Codec.bytewise (fun b => if b.toNat < 128 then some (Char.ofNat b.toNat) else none) "ascii"
    "ordinal not in range(128)"

def Codec.latin1 : Codec := fun bytes => .ok (bytes.map fun b => Char.ofNat b.toNat)

/-- The characters of the bytes from 128 to 159 where they are not control characters; zero for the
bytes that mean nothing. -/
def windowsChars : List Nat :=
  [0x20AC, 0, 0x201A, 0x0192, 0x201E, 0x2026, 0x2020, 0x2021, 0x02C6, 0x2030, 0x0160, 0x2039,
    0x0152, 0, 0x017D, 0, 0, 0x2018, 0x2019, 0x201C, 0x201D, 0x2022, 0x2013, 0x2014, 0x02DC,
    0x2122, 0x0161, 0x203A, 0x0153, 0, 0x017E, 0x0178]

def Codec.windows1252 : Codec :=
  Codec.bytewise
    (fun b =>
      if 128 ≤ b.toNat ∧ b.toNat < 160 then
        match windowsChars.getD (b.toNat - 128) 0 with
        | 0 => none
        | n => some (Char.ofNat n)
      else some (Char.ofNat b.toNat))
    "charmap" "character maps to <undefined>"

def namedCodecs : List (List String × Codec) :=
  [(["utf_8", "u8", "utf", "utf8", "utf8_ucs2", "utf8_ucs4", "cp65001"], .utf8),
    (["ascii", "646", "us", "us_ascii", "iso646_us", "ansi_x3_4_1968", "ansi_x3_4_1986", "cp367",
      "csascii", "ibm367", "iso_646_irv_1991", "iso_ir_6"], Codec.ascii),
    (["iso_8859_1", "8859", "cp819", "csisolatin1", "ibm819", "iso8859", "iso8859_1",
      "iso_8859_1_1987", "iso_ir_100", "l1", "latin", "latin1", "latin_1"], Codec.latin1),
    (["cp1252", "1252", "windows_1252"], Codec.windows1252)]

/-- Case and the kind of separators do not matter in a name. -/
def codecOfName? (name : String) : Option Codec :=
  let key := String.ofList (name.toList.map fun c => if c.isAlphanum then c.toLower else '_')
  (namedCodecs.find? (·.1.contains key)).map (·.2)

def Platform.plain : Platform := ⟨fun _ _ => 0, 900, codecOfName?⟩

end PluginBuild
