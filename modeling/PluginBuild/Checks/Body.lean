import PluginBuild.Analysis
import PluginBuild.Script.Preamble
import PluginBuild.Script.Walk

/-!
The check of a script's body. The body becomes the body of a method, so what would make another kind
of method of it, or leave it early, is not allowed in its own scope; future imports come first.
-/

namespace PluginBuild

open PluginBuild.Script

inductive BodyFault where
  | lateFutureImport
  | notAllowed (word : String)
  deriving DecidableEq, Repr

def BodyFault.message : BodyFault → String
  | .lateFutureImport => "from __future__ imports must occur at the beginning of the script"
  | .notAllowed word => s!"'{word}' is not allowed in the script body"

def bodyFault? : Node → Option BodyFault
  | .stmt (.importFrom _ module _ _) =>
    if module = some "__future__" then some .lateFutureImport else none
  | .stmt (.return _ _) => some (.notAllowed "return")
  | .stmt (.globals _ _) => some (.notAllowed "global")
  | .stmt (.nonlocals _ _) => some (.notAllowed "nonlocal")
  | .expr (.yield _ _) | .expr (.yieldFrom _ _) => some (.notAllowed "yield")
  | .expr (.await _ _) => some (.notAllowed "await")
  | _ => none

/-- The faults of a body with their places. The preamble opens no scope, so it is what a walk over
the scope of the script begins with. -/
def bodyFaults (m : Module) : List (Pos × BodyFault) :=
  ((scriptLevel m.nodes).drop (preambleLength m.body)).filterMap fun n => do
    let fault ← bodyFault? n
    let pos ← n.pos?
    return (pos, fault)

def checkBody : Check := fun s =>
  (bodyFaults s.tree).forM fun (pos, fault) => Analysis.error s pos fault.message

end PluginBuild
