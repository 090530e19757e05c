import PluginBuild.Path
import PluginBuild.Text.Upper
import PluginBuild.Text.Word

/-!
The class that a script becomes. Its name comes from the name of the file, its package from the
script.
-/

namespace PluginBuild

open PluginBuild.Text

structure PluginClass where
  name : String
  package : String
  deriving DecidableEq, Repr

namespace PluginClass

def qualifiedName (c : PluginClass) : String :=
  if c.package = "" then c.name else c.package ++ "." ++ c.name

def wordsOnly (text : List Char) : List Char := text.map fun c => if isWord c then c else '_'

/-- The class name for a file name without its ending: the first letter becomes upper case, and an
underscore goes before a digit. -/
def nameOfStem (stem : List Char) : List Char :=
  match wordsOnly stem with
  | [] => ['_']
  | c :: rest => if isDigit c then '_' :: c :: rest else upper c ++ rest

def nameOf (path : Path) : String := String.ofList (nameOfStem path.stem.toList)

end PluginClass

end PluginBuild
