import PluginBuild.Classpath
import PluginBuild.Compiler
import PluginBuild.Discovery

/-!
Compiling every script below a directory. The first script that is not compiled ends the batch; the
manifest, which lists the classes of all scripts, is written at the end only.
-/

namespace PluginBuild

open PluginBuild.Files PluginBuild.Text

def manifestContent (names : List String) : Bytes :=
  encodeUtf8 (String.join (names.map (· ++ "\n")))

def writeManifest (path : Path) (names : List String) : Build Unit :=
  Build.change (·.write path.text (manifestContent names))

structure Batch where
  template : Template
  context : ExecutionContext
  toolchain : Toolchain
  suffix : String
  depth : Nat

def manifest (results : List Compiled) : List String := results.map (·.qualifiedName)

namespace Batch

def step (c : Compiler) (output source : Path) : StateT (List Compiled) Build Unit := do
  match ← c.compile? source output with
  | .ok compiled =>
    Build.record .info s!"compiled {source} -> {compiled.qualifiedName}"
    modify (· ++ [compiled])
  | .error f => throw (.compilation f)

/-- Compiles every script below `input` into `output` and writes the manifest. -/
def run (b : Batch) (input output manifestPath : Path) (extra : List Path) :
    Build (List Compiled) := do
  let classpath ← assembleClasspath b.context extra
  Build.record .debug ("classpath: [" ++ join ", " (classpath.map (quoted ·.text)) ++ "]")
  Build.change (·.ensureDirectory output)
  let c : Compiler := ⟨classpath, b.template, b.toolchain⟩
  let search : Search := ⟨input, b.suffix, b.depth⟩
  let ((), results) ← (search.visit (step c output)).run []
  writeManifest manifestPath (manifest results)
  Build.record .info s!"manifest: {manifestPath} ({results.length} plugin(s))"
  return results

end Batch

end PluginBuild
