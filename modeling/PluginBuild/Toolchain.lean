import PluginBuild.Checks.Builtin
import PluginBuild.Generation

/-!
The toolchain analyses all sources of an environment and generates the files of each if none of them
has an error.
-/

namespace PluginBuild

abbrev Toolchain := Environment → Build (Option Outputs)

def analyzeAll (c : Configuration) : SymbolIndex → List SourceUnit → Build (List Subject × Bool)
  | _, [] => pure ([], false)
  | symbols, unit :: rest => do
    let (errors, symbols) ← analyze c unit symbols
    let (analysed, failed) ← analyzeAll c symbols rest
    match errors, unit.tree with
    | some 0, .ok tree => return (⟨c, unit, tree⟩ :: analysed, failed)
    | _, _ => return (analysed, true)

def generateAll (b : Backend) (t : Target) : List Subject → Outputs → Build Outputs
  | [], outputs => pure outputs
  | s :: rest, outputs => do generateAll b t rest (← generate b t s outputs)

def scriptToolchain (b : Backend) : Toolchain := fun environment => do
  let c := environment.configuration
  if !c.retainsOutput then throw (.toolchain .notRetained)
  let units ← environment.sources
  let (analysed, failed) ← analyzeAll c environment.symbols units
  if failed then
    Build.record .debug s!"module={c.moduleName} analysis failed"
    return none
  let outputs ← generateAll b Target.bytecode analysed []
  Build.record .debug s!"module={c.moduleName} generated {outputs.length} output(s)"
  return some outputs

end PluginBuild
