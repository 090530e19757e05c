import PluginBuild.Script.Package

/-!
The preamble of a script: a text that describes it, and future imports.
-/

namespace PluginBuild.Script

def Stmt.isFutureImport : Stmt → Bool
  | .importFrom _ module _ _ => module == some "__future__"
  | _ => false

def Stmt.isText : Stmt → Bool
  | .expr _ value => value.text?.isSome
  | _ => false

/-- How many statements come before the body proper: a text, and future imports. -/
def preambleLength : List Stmt → Nat
  | [] => 0
  | first :: rest =>
    if first.isText then 1 + (rest.takeWhile (·.isFutureImport)).length
    else ((first :: rest).takeWhile (·.isFutureImport)).length

end PluginBuild.Script
