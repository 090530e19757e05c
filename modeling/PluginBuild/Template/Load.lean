import PluginBuild.Classpath
import PluginBuild.Template.Marking

/-!
Templates that are named by a module and a class of it. How modules are imported is left open: the code
of a module may change files, and what the interpreter knows.
-/

namespace PluginBuild

open PluginBuild.Text

inductive Member where
  | templateClass (c : TemplateClass)
  | other

structure Imported where
  member : Option Member
  interpreter : Interpreter

abbrev Importer := Interpreter → (module name : String) → EStateM ImportError Workspace Imported

def Template.load (importer : Importer) (i : Interpreter) (reference : String) :
    EStateM TemplateError Workspace (Template × Interpreter) :=
  match splitFirst ':' reference with
  | (_, none) => throw (.badReference reference)
  | (module, some name) => do
    if module = "" ∨ name = "" then throw (.badReference reference)
    let imported ← (importer i module name).adaptExcept .noImport
    match imported.member with
    | some (.templateClass c) =>
      match Template.ofClass c with
      | .error e => throw e
      | .ok template => return (template, imported.interpreter)
    | _ => throw (.noClass reference)

end PluginBuild
