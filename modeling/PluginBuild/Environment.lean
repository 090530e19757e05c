import PluginBuild.Source
import PluginBuild.Symbols

/-!
The environment of a compilation: its configuration, the sources that were read, and the index of
its classpath. It is disposed of when the scope ends that it was made in.
-/

namespace PluginBuild

/-- What takes diagnostics. It knows those that were delivered before; each one gives records for the
log, or is refused, which ends the build. -/
structure Sink where
  take : (earlier : List Diagnostic) → Diagnostic → Except String (List LogRecord)

def Sink.collecting : Sink := ⟨fun _ _ => .ok []⟩

def Sink.logging : Sink := ⟨fun _ d => .ok d.record?.toList⟩

def Sink.deliver (sink : Sink) (d : Diagnostic) : Build Unit := do
  let earlier := (← get).diagnostics
  modify fun w => { w with diagnostics := w.diagnostics ++ [d] }
  match sink.take earlier d with
  | .ok records => records.forM fun record => Build.record record.level record.message
  | .error message => throw (.crash message)

structure Configuration where
  classpath : List Path
  template : Template
  moduleName : String
  sink : Sink
  sources : List Path
  retainsOutput : Bool

structure Environment where
  number : Nat
  configuration : Configuration
  units : List SourceUnit
  symbols : SymbolIndex

namespace Environment

def create (c : Configuration) : Build Environment := do
  let units ← c.sources.mapM (SourceUnit.load c.template)
  -- Sources that cannot be read have made no environment, so the scope takes it up only now.
  let number := (← get).disposed.length
  modify fun w => { w with
    disposed := w.disposed ++ [false]
    scope := ⟨number, c.moduleName⟩ :: w.scope }
  Build.record .debug
    s!"environment created for {c.moduleName} ({c.classpath.length} classpath entries)"
  return ⟨number, c, units, SymbolIndex.ofEntries c.classpath⟩

def isDisposed (e : Environment) : Build Bool := do
  return (← get).disposed.getD e.number false

def sources (e : Environment) : Build (List SourceUnit) := do
  if ← e.isDisposed then throw (.toolchain .disposed)
  return e.units

end Environment

end PluginBuild
