import PluginBuild.Text.Pieces

/-!
Script templates: the classes that scripts are compiled into subclasses of.
-/

namespace PluginBuild

open PluginBuild.Text

/-- A template class by its module and its name, the ending of the files it is for, and the name
that stands for the instance inside a script. -/
structure Template where
  module : String
  name : String
  extension : String
  receiver : String
  deriving DecidableEq, Repr

def Template.plugin : Template := ⟨"toolchain.template", "PluginScript", ".plugin.py", "plugin"⟩

def Template.qualifiedName (t : Template) : String := t.module ++ "." ++ t.name

def Template.isScript (t : Template) (fileName : String) : Bool := endsWith fileName t.extension

end PluginBuild
