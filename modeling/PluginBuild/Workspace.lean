import PluginBuild.Diagnostic
import PluginBuild.Failure

/-!
What a build works on: the files, the log, and the diagnostics that were delivered. A task changes
it and ends with a value or a failure; what was changed before a failure stays changed.
-/

namespace PluginBuild

open PluginBuild.Files PluginBuild.Text

structure Disposal where
  environment : Nat
  moduleName : String
  deriving DecidableEq, Repr

/-- `disposed` tells of each environment that was made whether it has been disposed of, and `scope`
holds what is left to do in the scope that is open, the last first. -/
structure Workspace where
  files : FileTree
  log : List LogRecord
  diagnostics : List Diagnostic
  disposed : List Bool
  scope : List Disposal

def Workspace.dispose (w : Workspace) (d : Disposal) : Workspace :=
  { w with
    disposed := w.disposed.set d.environment true
    log := w.log ++ [⟨.debug, s!"environment disposed for {d.moduleName}"⟩] }

def Workspace.leave (w : Workspace) (outer : List Disposal) : Workspace :=
  { w.scope.foldl Workspace.dispose w with scope := outer }

abbrev Build : Type → Type := EStateM Failure Workspace

namespace Build

def record (level : LogLevel) (message : String) : Build Unit :=
  modify fun w => { w with log := w.log ++ [⟨level, message⟩] }

def ask {α : Type} (request : FileTree → Except FileError α) : Build α := do
  match request (← get).files with
  | .ok a => pure a
  | .error e => throw (.file e)

def change (request : FileTree → Change) : Build Unit := fun w =>
  match request w.files with
  | .ok () files => .ok () { w with files }
  | .error e files => .error (.file e) { w with files }

def outcome {α : Type} (task : Build α) : Build (Except Failure α) := fun w =>
  match task w with
  | .ok a w => .ok (.ok a) w
  | .error e w => .ok (.error e) w

/-- Runs a task in a scope of its own. What is left to do in it is done at its end, whatever came of
the task. -/
def inScope {α : Type} (task : Build α) : Build α := fun w =>
  match task { w with scope := [] } with
  | .ok a ended => .ok a (ended.leave w.scope)
  | .error e ended => .error e (ended.leave w.scope)

end Build

end PluginBuild
