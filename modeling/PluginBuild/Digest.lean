import PluginBuild.Text.Utf8

/-!
The digest of a source, a keyed hash of its bytes (SipHash with one round for each block and three
at the end).
-/

namespace PluginBuild

open PluginBuild.Text

namespace Digest

structure State where
  v0 : UInt64
  v1 : UInt64
  v2 : UInt64
  v3 : UInt64

def rotate (x : UInt64) (n : UInt64) : UInt64 := x <<< n ||| x >>> (64 - n)

def State.round (s : State) : State :=
  let a0 := s.v0 + s.v1
  let a1 := rotate s.v1 13 ^^^ a0
  let b0 := rotate a0 32
  let a2 := s.v2 + s.v3
  let a3 := rotate s.v3 16 ^^^ a2
  let c0 := b0 + a3
  let c3 := rotate a3 21 ^^^ c0
  let c2 := a2 + a1
  let c1 := rotate a1 17 ^^^ c2
  ⟨c0, c1, rotate c2 32, c3⟩

def State.absorb (s : State) (block : UInt64) : State :=
  let s := State.round { s with v3 := s.v3 ^^^ block }
  { s with v0 := s.v0 ^^^ block }

def key : UInt64 := 0x0A0D0DA7

def start : State :=
  ⟨key ^^^ 0x736F6D6570736575, 0x646F72616E646F6D, key ^^^ 0x6C7967656E657261,
    0x7465646279746573⟩

def littleEndian (bytes : Bytes) : Nat := bytes.foldr (fun b n => b.toNat + 256 * n) 0

def toLittleEndian : Nat → Nat → Bytes
  | 0, _ => []
  | count + 1, n => UInt8.ofNat (n % 256) :: toLittleEndian count (n / 256)

def absorbAll (length : Nat) (s : State) (bytes : Bytes) : State :=
  if bytes.length < 8 then
    s.absorb (UInt64.ofNat (littleEndian bytes + length % 256 * Nat.pow 2 56))
  else absorbAll length (s.absorb (UInt64.ofNat (littleEndian (bytes.take 8)))) (bytes.drop 8)
termination_by bytes.length
decreasing_by rw [List.length_drop]; omega

end Digest

def sourceDigest (bytes : Bytes) : UInt64 :=
  let s := Digest.absorbAll bytes.length Digest.start bytes
  let s := Digest.State.round (Digest.State.round (Digest.State.round
    { s with v2 := s.v2 ^^^ 0xFF }))
  s.v0 ^^^ s.v1 ^^^ s.v2 ^^^ s.v3

end PluginBuild
