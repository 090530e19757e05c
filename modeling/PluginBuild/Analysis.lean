import PluginBuild.Environment

/-!
Analysis of one source. Checks report diagnostics; errors among them are counted.
-/

namespace PluginBuild

open PluginBuild.Text PluginBuild.Script

structure Subject where
  configuration : Configuration
  unit : SourceUnit
  tree : Module

/-- What an analysis carries along: the index of the classpath, and how many errors were reported. -/
structure Findings where
  symbols : SymbolIndex
  errors : Nat

abbrev Analysis : Type → Type := StateT Findings Build

def SourceUnit.diagnostic (unit : SourceUnit) (severity : Severity) (line column : Int)
    (message : String) : Diagnostic :=
  ⟨severity, unit.path, line, column, message, lineAt unit.text line⟩

namespace Analysis

def report (s : Subject) (severity : Severity) (line column : Int) (message : String) :
    Analysis Unit := do
  if severity.isError then modify fun f => { f with errors := f.errors + 1 }
  s.configuration.sink.deliver (s.unit.diagnostic severity line column message)

def errorAt (s : Subject) (line column : Option Int) (message : String) : Analysis Unit :=
  report s .error (orOne line) (column.getD 0 + 1) message

def error (s : Subject) (pos : Pos) (message : String) : Analysis Unit :=
  errorAt s (some pos.line) (some pos.column) message

def errorAtStart (s : Subject) (message : String) : Analysis Unit := report s .error 1 1 message

def resolves (s : String) : Analysis Bool := do
  let findings ← get
  let (result, symbols) := findings.symbols.resolves (← (getThe Workspace : Build Workspace)).files s
  set { findings with symbols }
  match result with
  | .ok found => pure found
  | .error e => throw e

end Analysis

abbrev Check := Subject → Analysis Unit

end PluginBuild
