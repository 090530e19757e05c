import PluginBuild.Template
import PluginBuild.Text.Identifier
import PluginBuild.Text.Quoted

/-!
Markings make a class a script template. A marking has two members, the extension of script
files and the name of the receiver, and counts for its own class only.
-/

namespace PluginBuild

open PluginBuild.Text

/-- What stops the import of a module: it is not found, or its code fails, for which a program may be
prepared or not, or asks for the end of the program. -/
inductive ImportError where
  | relative (module : String)
  | noModule (module : String)
  | notAPackage (module parent : String)
  | raised (message : String) (isForeseen : Bool)
  | exit (code : Nat) (output : String)
  deriving DecidableEq, Repr

def ImportError.message : ImportError → String
  | .relative module =>
    s!"the 'package' argument is required to perform a relative import for {quoted module}"
  | .noModule module => s!"No module named {quoted module}"
  | .notAPackage module parent =>
    s!"No module named {quoted module}; {quoted parent} is not a package"
  | .raised message _ => message
  | .exit _ _ => ""

inductive TemplateError where
  | badExtension (extension : String)
  | badReceiver (receiver : String)
  | notAnnotated (qualifiedName : String)
  | missingMember (key : String)
  | badReference (reference : String)
  | noImport (e : ImportError)
  | noClass (reference : String)
  deriving DecidableEq, Repr

def TemplateError.message : TemplateError → String
  | .badExtension extension => s!"Script file extension must start with '.': {extension}"
  | .badReceiver receiver => s!"Script receiver must be an identifier: {receiver}"
  | .notAnnotated qualifiedName => s!"{qualifiedName} is not annotated with @script_template"
  | .missingMember key => quoted key
  | .badReference reference =>
    s!"Script template must look like 'module:Class', got: {reference}"
  | .noImport e => e.message
  | .noClass reference => s!"Script template class not found: {reference}"

abbrev Marking (α : Type) := List (String × α)

def extensionKey : String := "file_extension"
def receiverKey : String := "receiver"

def annotate (extension receiver : String) : Except TemplateError (Marking String) :=
  if !startsWith extension "." then .error (.badExtension extension)
  else if !isIdentifier receiver then .error (.badReceiver receiver)
  else .ok [(extensionKey, extension), (receiverKey, receiver)]

def Marking.read {α : Type} (className : String) :
    Option (Marking α) → Except TemplateError (α × α)
  | none => .error (.notAnnotated className)
  | some members =>
    match members.lookup extensionKey, members.lookup receiverKey with
    | none, _ => .error (.missingMember extensionKey)
    | _, none => .error (.missingMember receiverKey)
    | some extension, some receiver => .ok (extension, receiver)

structure TemplateClass where
  module : String
  name : String
  marking : Option (Marking String)

def Template.ofClass (c : TemplateClass) : Except TemplateError Template :=
  (Marking.read (c.module ++ "." ++ c.name) c.marking).map fun (extension, receiver) =>
    ⟨c.module, c.name, extension, receiver⟩

end PluginBuild
