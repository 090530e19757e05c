import PluginBuild.Checks.Body
import PluginBuild.Checks.Declarations
import PluginBuild.Checks.Imports
import PluginBuild.Checks.Registry

/-!
The checks that every source goes through.
-/

namespace PluginBuild

def builtinChecks : Registry Check :=
  ⟨[("declarations", checkDeclarations), ("script-body", checkBody), ("imports", checkImports),
    ("template", checkTemplate)]⟩

def runChecks (s : Subject) : Analysis Unit :=
  builtinChecks.checks.forM fun (name, check) => do
    Build.record .debug s!"module={s.configuration.moduleName} check={name}"
    check s

/-- Analyses a unit: the errors that were counted, or nothing if the unit has no tree, which is
reported as an error of its own. -/
def analyze (c : Configuration) (unit : SourceUnit) (symbols : SymbolIndex) :
    Build (Option Nat × SymbolIndex) := do
  match unit.tree with
  | .error report =>
    c.sink.deliver (report.diagnostic unit.path unit.text)
    return (none, symbols)
  | .ok tree =>
    let ((), findings) ← (runChecks ⟨c, unit, tree⟩).run ⟨symbols, 0⟩
    return (some findings.errors, findings.symbols)

end PluginBuild
