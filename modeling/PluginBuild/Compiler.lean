import PluginBuild.Toolchain

/-!
Compiling one script: an environment is created for it, the toolchain generates files, and the files
are written below the output directory. All this happens in a scope, so that the environment is
disposed of whatever comes of it.
-/

namespace PluginBuild

open PluginBuild.Files PluginBuild.Text

structure Compiled where
  qualifiedName : String
  artifact : Path
  deriving DecidableEq, Repr

structure Compiler where
  classpath : List Path
  template : Template
  toolchain : Toolchain

namespace Files.FileTree

def absolute (t : FileTree) (p : Path) : Path := (⟨.root, t.current⟩ : Path).resolve p

/-- A relative path has no absolute one if the current directory is gone. -/
def absolute? (t : FileTree) (p : Path) : Except FileError Path :=
  if p.isAbsolute then .ok p else t.here.map fun _ => t.absolute p

end Files.FileTree

def guarded {α : Type} (source : Path) (task : Build α) : Build α := do
  match ← Build.outcome task with
  | .ok a => pure a
  | .error (.toolchain e) => throw (.compilation ⟨.toolchain e, some source⟩)
  | .error e => throw e

def writeOutput (directory : Path) (o : OutputFile) : Build Unit := do
  let destination := directory.child o.path
  Build.change (·.ensurePath destination.parent)
  Build.change (·.write destination.text o.content)
  Build.record .debug s!"wrote {destination}"

namespace Compiler

def configuration (c : Compiler) (source root : Path) : Configuration :=
  ⟨c.classpath, c.template, source.text, .logging, [root], true⟩

def produce (c : Compiler) (source : Path) (environment : Environment) :
    Build (PluginClass × Outputs) := do
  match ← c.toolchain environment with
  | none => throw (.compilation ⟨.noBytecode, some source⟩)
  | some outputs =>
    let units ← environment.sources
    match units.head?.bind (·.plugin) with
    | none => throw (.compilation ⟨.notAScript, some source⟩)
    | some plugin => return (plugin, outputs)

def deliver (c : Compiler) (source directory : Path) (environment : Environment) :
    Build Compiled := do
  let (plugin, outputs) ← guarded source (c.produce source environment)
  let path := Target.bytecode.artifactPath plugin.qualifiedName
  match outputs.get? path with
  | none => throw (.compilation ⟨.artifactMissing path, some source⟩)
  | some o =>
    -- Nothing is written before the file of the class is known to be there.
    outputs.forM (writeOutput directory)
    return ⟨plugin.qualifiedName, directory.child o.path⟩

def compile (c : Compiler) (source directory : Path) : Build Compiled := do
  Build.record .info s!"compile: {source}"
  Build.inScope do
    let root ← Build.ask (·.absolute? source)
    let environment ← guarded source (Environment.create (c.configuration source root))
    c.deliver source directory environment

def compile? (c : Compiler) (source directory : Path) :
    Build (Except CompilationFailure Compiled) := do
  match ← Build.outcome (c.compile source directory) with
  | .ok compiled => return .ok compiled
  | .error (.compilation f) => return .error f
  | .error e => throw e

end Compiler

end PluginBuild
