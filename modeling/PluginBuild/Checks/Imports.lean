import PluginBuild.Analysis
import PluginBuild.Script.Walk

/-!
The checks of what a script needs: every module that it imports anywhere, and the module of its
template, is built in or on the classpath.
-/

namespace PluginBuild

open PluginBuild.Script

def requireModule (s : Subject) (pos : Pos) (module : String) : Analysis Unit := do
  if !(← Analysis.resolves module) then Analysis.error s pos s!"unresolved module: {module}"

/-- Checks the imports of a node. Relative imports are seen from the script's package, which is no
matter of the classpath. -/
def checkImport (s : Subject) : Node → Analysis Unit
  | .stmt (.importModules pos names) => names.forM fun a => requireModule s pos a.name
  | .stmt (.importFrom pos module names level) => do
    if names.any (·.name == "*") then
      Analysis.error s pos "wildcard imports are not supported in plugin scripts"
    match level, module with
    | 0, some module => if module ≠ "__future__" then requireModule s pos module
    | _, _ => pure ()
  | _ => pure ()

def checkImports : Check := fun s => (walk s.tree.nodes).forM (checkImport s)

def checkTemplate : Check := fun s => do
  let template := s.configuration.template
  if !(← Analysis.resolves template.module) then
    Analysis.errorAtStart s
      (s!"cannot access script base class {template.qualifiedName}: " ++
        s!"module {template.module} is not on the classpath")

end PluginBuild
