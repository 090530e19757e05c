import PluginBuild.Text.Ranges

/-!
Blank characters of Unicode 14: white space and the bidirectional separators, among them the
information separators U+001C to U+001F.
-/

namespace PluginBuild.Text

def blankRanges : Ranges := ⟨#[
  133, 134, 160, 161, 5760, 5761, 8192, 8203, 8232, 8234, 8239, 8240, 8287, 8288, 12288, 12289]⟩

def isBlank (c : Char) : Bool :=
  if c.toNat < 128 then
    (9 ≤ c.toNat && c.toNat ≤ 13) || (28 ≤ c.toNat && c.toNat ≤ 32)
  else blankRanges.contains c.toNat

def strip (s : String) : String :=
  String.ofList ((s.toList.dropWhile isBlank).reverse.dropWhile isBlank).reverse

end PluginBuild.Text
