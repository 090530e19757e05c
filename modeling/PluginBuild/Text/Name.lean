import PluginBuild.Text.Hex
import PluginBuild.Text.NameData

/-!
Characters by name. Korean syllables are named by their sounds and ideographs by their numbers, both
in capital letters; every other name may be in letters of either case.
-/

namespace PluginBuild.Text

def longestBeginning (beginnings : List String) (text : List Char) : Option (Nat × List Char) :=
  (beginnings.zipIdx.foldl (fun best (beginning, i) =>
    let letters := beginning.toList
    if letters.isPrefixOf text && best.all fun (length, _) => length < letters.length then
      some (letters.length, i)
    else best) (none : Option (Nat × Nat))).map fun (length, i) => (i, text.drop length)

def syllable? (sounds : List Char) : Option Nat := do
  let (initial, rest) ← longestBeginning initialSounds sounds
  let (medial, rest) ← longestBeginning medialSounds rest
  let (final, rest) ← longestBeginning finalSounds rest
  if rest.isEmpty then
    some (0xAC00 + (initial * medialSounds.length + medial) * finalSounds.length + final)
  else none

def ideograph? (digits : List Char) : Option Nat := do
  let values ← digits.mapM fun c => if c.isLower then none else hexDigit? c
  let n := values.foldl (fun n d => 16 * n + d) 0
  if (digits.length = 4 ∨ digits.length = 5) ∧
      ideographRanges.any (fun (first, last) => first ≤ n && n ≤ last) then some n
  else none

def NameBlock.find? (block : NameBlock) (name : String) : Option Nat :=
  ((block.names.flatMap fun line => line.splitOn ";").findIdx? (· == name)).map (block.first + ·)

def numberOfName? (name : List Char) : Option Nat :=
  let syllables := "HANGUL SYLLABLE ".toList
  let ideographs := "CJK UNIFIED IDEOGRAPH-".toList
  if name.isEmpty then none
  else if syllables.isPrefixOf name then syllable? (name.drop syllables.length)
  else if ideographs.isPrefixOf name then ideograph? (name.drop ideographs.length)
  else
    let capital := String.ofList (name.map Char.toUpper)
    (nameBlocks.findSome? (·.find? capital)).orElse fun _ => otherNames.lookup capital

end PluginBuild.Text
