import PluginBuild.Analysis
import PluginBuild.Code.Check
import PluginBuild.Outputs
import PluginBuild.Target

/-!
Generated files of one source. A script gives a file for its class and one for every package above
it; any other source gives a file of its own name. Behind its header a file holds the code of a
module, which a backend makes from the module and the name of the source.
-/

namespace PluginBuild

open PluginBuild.Script PluginBuild.Text

abbrev Backend := (fileName : String) → Module → Bytes

def compiledFile (t : Target) (source code : Bytes) : Bytes := t.header source ++ code

def checkCode (s : Subject) (fileName : String) (m : Module) : Build Unit := do
  match Code.check m with
  | .error e => throw (.toolchain (.generation fileName e))
  | .ok warnings => warnings.forM fun w =>
    s.configuration.sink.deliver (s.unit.diagnostic .warning w.line 1 w.caution.message)

/-- The packages that a package lies in, the outermost first and itself last, as directories. -/
def packageDirectories (package : String) : List String :=
  if package = "" then []
  else
    let parts := split '.' package
    (List.range parts.length).map fun depth => join "/" (parts.take (depth + 1))

def packageFile (b : Backend) (t : Target) (directory : String) : OutputFile :=
  ⟨directory ++ "/__init__" ++ t.suffix,
    compiledFile t [] (b (directory ++ "/__init__.py") ⟨[]⟩)⟩

def addPackages (b : Backend) (t : Target) (directories : List String) (outputs : Outputs) :
    Outputs :=
  directories.foldl (fun outputs directory =>
    let o := packageFile b t directory
    if (outputs.get? o.path).isSome then outputs else outputs.add o) outputs

def plainName (path : Path) : String :=
  match PluginClass.wordsOnly (path.name.toList.takeWhile (· != '.')) with
  | [] => "_"
  | name => String.ofList name

def generate (b : Backend) (t : Target) (s : Subject) (outputs : Outputs) : Build Outputs := do
  let source := s.unit.path
  let fileName := source.text
  match s.unit.plugin with
  | none =>
    checkCode s fileName s.tree
    return outputs.add ⟨t.artifactPath (plainName source),
      compiledFile t s.unit.bytes (b fileName s.tree)⟩
  | some plugin =>
    match assemble s.tree plugin s.configuration.template with
    | .error .tooDeep => throw (.toolchain (.assembly source))
    | .error e => throw (.assembly e)
    | .ok m =>
      checkCode s fileName m
      let outputs := addPackages b t (packageDirectories plugin.package) outputs
      return outputs.add ⟨t.artifactPath plugin.qualifiedName,
        compiledFile t s.unit.bytes (b fileName m)⟩

end PluginBuild
