import PluginBuild.Digest
import PluginBuild.Text.Pieces

/-!
What sources are compiled to: files that begin with a mark, flags, and the digest of the source.
-/

namespace PluginBuild

open PluginBuild.Text

structure Target where
  magic : Bytes
  suffix : String
  optimize : Nat
  deriving DecidableEq, Repr

def Target.bytecode : Target := ⟨[0xA7, 0x0D, 0x0D, 0x0A], ".pyc", 0⟩

def digestFlags : Bytes := [1, 0, 0, 0]

def Target.header (t : Target) (source : Bytes) : Bytes :=
  t.magic ++ digestFlags ++ Digest.toLittleEndian 8 (sourceDigest source).toNat

def Target.artifactPath (t : Target) (qualifiedName : String) : String :=
  replaceChar '.' ['/'] qualifiedName ++ t.suffix

end PluginBuild
