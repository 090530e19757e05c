import PluginBuild.Analysis

/-!
The check of package declarations. A script declares its package at most once, by one assignment of
a literal to `__package__` alone, and every part of the package's name is an identifier.
-/

namespace PluginBuild

open PluginBuild.Text PluginBuild.Script

inductive DeclarationFault where
  | notAlone
  | notText
  | invalidName (package : String)
  | repeated
  deriving DecidableEq, Repr

def DeclarationFault.message : DeclarationFault → String
  | .notAlone => "__package__ must be assigned on its own"
  | .notText => "__package__ must be a string literal"
  | .invalidName package => s!"invalid package name: {quoted package}"
  | .repeated => "__package__ is declared more than once"

def isPackageName (package : String) : Bool := (split '.' package).all isIdentifier

def assignmentFault? (isDeclared : Bool) (targets : List Expr) (value : Expr) :
    Option DeclarationFault :=
  if targets.length ≠ 1 then some .notAlone
  else match value.text? with
    | none => some .notText
    | some package =>
      if !isPackageName package then some (.invalidName package)
      else if isDeclared then some .repeated
      else none

def declarationFaults (isDeclared : Bool) : List Stmt → List (Pos × DeclarationFault)
  | [] => []
  | .assign pos targets value :: rest =>
    if targets.any (·.isPackageTarget) then
      ((assignmentFault? isDeclared targets value).map (pos, ·)).toList ++
        declarationFaults true rest
    else declarationFaults isDeclared rest
  | .augAssign pos target _ _ :: rest | .annAssign pos target _ _ _ :: rest =>
    if target.isPackageTarget then (pos, .notText) :: declarationFaults isDeclared rest
    else declarationFaults isDeclared rest
  | _ :: rest => declarationFaults isDeclared rest

def checkDeclarations : Check := fun s =>
  (declarationFaults false s.tree.body).forM fun (pos, fault) =>
    Analysis.error s pos fault.message

end PluginBuild
