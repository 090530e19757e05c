import PluginBuild.Digest
import PluginBuild.Text.Pieces

/-!
Archives of files (zip). A directory at the end of an archive lists its members; something else may
stand before the first of them. Only the names of the members are read here, and archives of empty
members are written.
-/

namespace PluginBuild.Archive

open PluginBuild.Text

inductive ArchiveError where
  | noArchive
  | badOffset
  | truncated
  | badMark
  | corruptExtra (id size : Nat)
  | corruptWideExtra (missing : String)
  | manyDisks
  | unsupportedVersion (version : Nat)
  | undecodableName (e : DecodeError)
  deriving DecidableEq, Repr

def ArchiveError.message : ArchiveError → String
  | .noArchive => "File is not a zip file"
  | .badOffset => "Bad offset for central directory"
  | .truncated => "Truncated central directory"
  | .badMark => "Bad magic number for central directory"
  | .corruptExtra id size =>
    s!"Corrupt extra field {String.ofList ((Nat.toDigits 16 (65536 + id)).drop 1)} (size={size})"
  | .corruptWideExtra missing => s!"Corrupt zip64 extra field. {missing} not found."
  | .manyDisks => "zipfiles that span multiple disks are not supported"
  | .unsupportedVersion version => s!"zip file version {version / 10}.{version % 10}"
  | .undecodableName e => e.message

def field (bytes : Bytes) (place size : Nat) : Nat :=
  Digest.littleEndian ((bytes.drop place).take size)

def memberMark : Bytes := [0x50, 0x4B, 0x03, 0x04]
def entryMark : Bytes := [0x50, 0x4B, 0x01, 0x02]
def endMark : Bytes := [0x50, 0x4B, 0x05, 0x06]
def wideMark : Bytes := [0x50, 0x4B, 0x06, 0x06]
def locatorMark : Bytes := [0x50, 0x4B, 0x06, 0x07]

def endSize : Nat := 22

def wideSize : Nat := 56
def locatorSize : Nat := 20

def entrySize : Nat := 46

def lastPlace? (mark : Bytes) : Nat → Bytes → Option Nat
  | _, [] => none
  | place, b :: rest =>
    match lastPlace? mark (place + 1) rest with
    | some found => some found
    | none => if mark.isPrefixOf (b :: rest) then some place else none

structure EndRecord where
  size : Nat
  offset : Nat
  place : Nat
  deriving DecidableEq, Repr

/-- Where the directory begins, which is further on than said if bytes stand before the first member. -/
def EndRecord.start (r : EndRecord) : Int :=
  let shift : Int := r.place - r.size - r.offset
  r.offset + shift

/-- The record at the end of an archive. A comment may follow it, of less than 64 KiB. -/
def plainRecord? (bytes : Bytes) : Option EndRecord :=
  let length := bytes.length
  if length < endSize then none
  else
    let record (place : Nat) (r : Bytes) : EndRecord := ⟨field r 12 4, field r 16 4, place⟩
    let last := bytes.drop (length - endSize)
    -- Without a comment the record is the end of the archive, which is tried first.
    if endMark.isPrefixOf last && last.drop 20 == [0, 0] then
      some (record (length - endSize) last)
    else
      let start := length - 65536 - endSize
      match lastPlace? endMark start (bytes.drop start) with
      | none => none
      | some place =>
        let r := (bytes.drop place).take endSize
        if r.length = endSize then some (record place r) else none

/-- The record with the numbers of the wide one where there is one. Nothing is found where the wide
record would begin before the first byte. -/
def EndRecord.widen (bytes : Bytes) (r : EndRecord) : Except ArchiveError (Option EndRecord) :=
  let locator := bytes.drop (r.place - locatorSize)
  if r.place < locatorSize || !locatorMark.isPrefixOf locator then .ok (some r)
  else if field locator 4 4 ≠ 0 ∨ 1 < field locator 16 4 then .error .manyDisks
  else if r.place < wideSize + locatorSize then .ok none
  else
    let place := r.place - (wideSize + locatorSize)
    let wide := bytes.drop place
    if wideMark.isPrefixOf wide then .ok (some ⟨field wide 40 8, field wide 48 8, place⟩)
    else .ok (some r)

def endRecord? (bytes : Bytes) : Except ArchiveError (Option EndRecord) :=
  match plainRecord? bytes with
  | none => .ok none
  | some r => r.widen bytes

def isArchive (bytes : Bytes) : Except ArchiveError Bool := (endRecord? bytes).map Option.isSome

/-- The characters of the bytes from 128 on in names that are not in UTF-8. -/
def nameChars : String :=
  "ÇüéâäàåçêëèïîìÄÅÉæÆôöòûùÿÖÜ¢£¥₧ƒáíóúñÑªº¿⌐¬½¼¡«»░▒▓│┤╡╢╖╕╣║╗╝╜╛┐└┴┬├─┼╞╟╚╔╩╦╠═╬╧╨╤╥╙╘╒╓╫╪┘┌█▄▌▐▀" ++
    "αßΓπΣσµτΦΘΩδ∞φε∩≡±≥≤⌠⌡÷≈°∙·√ⁿ²■\u00A0"

def nameChar (b : UInt8) : Char :=
  if b.toNat < 128 then Char.ofNat b.toNat else nameChars.toList.getD (b.toNat - 128) '?'

def memberName (isUtf8 : Bool) (bytes : Bytes) : Except ArchiveError String := do
  let name ←
    if isUtf8 then match decodeUtf8 bytes with
      | .ok name => pure name.toList
      | .error e => throw (.undecodableName e)
    else pure (bytes.map nameChar)
  return String.ofList (name.takeWhile (· != '\x00'))

structure Sizes where
  plain : Nat
  packed : Nat
  offset : Nat

def tooLarge : Nat := 0xFFFFFFFF

/-- The numbers that do not fit into an entry, from the field of its extra data that holds them. -/
def Sizes.widen (sizes : Sizes) (data : Bytes) : Except ArchiveError Sizes := do
  let next (missing : String) (data : Bytes) : Except ArchiveError (Nat × Bytes) :=
    if data.length < 8 then throw (.corruptWideExtra missing) else return (field data 0 8, data.drop 8)
  let (plain, data) ←
    if sizes.plain = tooLarge ∨ sizes.plain = 0xFFFFFFFFFFFFFFFF then next "File size" data
    else pure (sizes.plain, data)
  let (packed, data) ←
    if sizes.packed = tooLarge then next "Compress size" data else pure (sizes.packed, data)
  let (offset, _) ←
    if sizes.offset = tooLarge then next "Header offset" data else pure (sizes.offset, data)
  return ⟨plain, packed, offset⟩

def checkExtra (sizes : Sizes) (extra : Bytes) : Except ArchiveError Unit :=
  if extra.length < 4 then .ok ()
  else
    let size := field extra 2 2
    if extra.length < size + 4 then .error (.corruptExtra (field extra 0 2) size)
    else
      match if field extra 0 2 = 1 then sizes.widen ((extra.drop 4).take size) else .ok sizes with
      | .error e => .error e
      | .ok sizes => checkExtra sizes (extra.drop (size + 4))
termination_by extra.length
decreasing_by rw [List.length_drop]; omega

def maxVersion : Nat := 63

def directoryNames (size : Nat) (directory : Bytes) : Except ArchiveError (List String) :=
  if size = 0 then .ok []
  else if _fits : directory.length < entrySize then .error .truncated
  else if !entryMark.isPrefixOf directory then .error .badMark
  else
    let nameSize := field directory 28 2
    let extraSize := field directory 30 2
    let total := entrySize + nameSize + extraSize + field directory 32 2
    let rest := directory.drop entrySize
    -- A name is in UTF-8 if the eleventh bit of the flags says so.
    match memberName (field directory 8 2 / 2048 % 2 == 1) (rest.take nameSize) with
    | .error e => .error e
    | .ok name =>
      if maxVersion < field directory 6 1 then
        .error (.unsupportedVersion (field directory 6 1))
      else match checkExtra
          ⟨field directory 24 4, field directory 20 4, field directory 42 4⟩
          ((rest.drop nameSize).take extraSize) with
        | .error e => .error e
        | .ok () => (directoryNames (size - total) (directory.drop total)).map (name :: ·)
termination_by directory.length
decreasing_by
  rw [List.length_drop]
  have : entrySize = 46 := rfl
  omega

def memberNames (bytes : Bytes) : Except ArchiveError (List String) :=
  match endRecord? bytes with
  | .error e => .error e
  | .ok none => .error .noArchive
  | .ok (some r) =>
    if r.start < 0 then .error .badOffset
    else directoryNames r.size ((bytes.drop r.start.toNat).take r.size)

def nameFlags (name : Bytes) : Bytes :=
  if name.all (·.toNat < 128) then [0, 0] else [0, 8]

def emptyMember (name : Bytes) : Bytes :=
  memberMark ++ [20, 0] ++ nameFlags name ++ [0, 0, 0, 0, 0x21, 0] ++ List.replicate 12 0 ++
    Digest.toLittleEndian 2 name.length ++ [0, 0] ++ name

def emptyEntry (place : Nat) (name : Bytes) : Bytes :=
  entryMark ++ [20, 3, 20, 0] ++ nameFlags name ++ [0, 0, 0, 0, 0x21, 0] ++ List.replicate 12 0 ++
    Digest.toLittleEndian 2 name.length ++ List.replicate 8 0 ++ [0, 0, 0x80, 1] ++
    Digest.toLittleEndian 4 place ++ name

def placed : Nat → List Bytes → List (Nat × Bytes)
  | _, [] => []
  | place, name :: rest => (place, name) :: placed (place + (emptyMember name).length) rest

def ofNames (names : List String) : Bytes :=
  let names := names.map encodeUtf8
  let members := names.flatMap emptyMember
  let directory := (placed 0 names).flatMap fun (place, name) => emptyEntry place name
  let count := Digest.toLittleEndian 2 names.length
  members ++ directory ++ endMark ++ [0, 0, 0, 0] ++ count ++ count ++
    Digest.toLittleEndian 4 directory.length ++ Digest.toLittleEndian 4 members.length ++ [0, 0]

end PluginBuild.Archive
