import PluginBuild.Text.Utf8

/-!
What a build finds where it runs and cannot change: the order in which directories list their names,
how deep calls may be nested, and the encodings that there are.
-/

namespace PluginBuild

open PluginBuild.Text

inductive CodecFault where
  | undecodable (e : DecodeError)
  | notForText
  | failed (message : String)
  deriving DecidableEq, Repr

/-- An encoding, in which line ends and null characters stand for themselves. -/
abbrev Codec := Bytes → Except CodecFault (List Char)

def Codec.utf8 : Codec := fun bytes =>
  match decodeUtf8 bytes with
  | .error e => .error (.undecodable e)
  | .ok text => .ok text.toList

/-- A directory, which is given by the names that lead to it, lists its names by rank, and by their
characters where ranks are the same. A walk can be in as many directories below its first as there is
room for. -/
structure Platform where
  rank : List String → String → Nat
  room : Nat
  codec? : String → Option Codec

def Platform.lists (s : Platform) (directory : List String) (first second : String) : Bool :=
  s.rank directory first < s.rank directory second ||
    s.rank directory first == s.rank directory second && first ≤ second

end PluginBuild
