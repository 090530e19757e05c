import PluginBuild.Text.Utf8

/-!
Generated files, in the order in which their paths were first added. A file that is added again
keeps its place and gets new bytes.
-/

namespace PluginBuild

open PluginBuild.Text

structure OutputFile where
  path : String
  content : Bytes
  deriving DecidableEq, Repr

abbrev Outputs := List OutputFile

namespace Outputs

def add (o : OutputFile) : Outputs → Outputs
  | [] => [o]
  | first :: rest => if first.path = o.path then o :: rest else first :: add o rest

def get? (outputs : Outputs) (path : String) : Option OutputFile :=
  outputs.find? (·.path == path)

theorem get?_add (o : OutputFile) (outputs : Outputs) (path : String) :
    (outputs.add o).get? path = if path = o.path then some o else outputs.get? path := by
  induction outputs with
  | nil =>
    by_cases same : path = o.path
    · simp [add, get?, same]
    · simp [add, get?, same, Ne.symm same]
  | cons first rest ih =>
    unfold add
    split
    · rename_i replaced
      by_cases same : path = o.path
      · simp [get?, same]
      · simp [get?, same, Ne.symm same, replaced]
    · rename_i kept
      by_cases here : first.path = path
      · have other : path ≠ o.path := fun same => kept (here.trans same)
        simp [get?, here, other]
      · have skip : ∀ l : Outputs, get? (first :: l) path = get? l path := by
          intro l; simp [get?, here]
        rw [skip, skip, ih]

end Outputs

end PluginBuild
