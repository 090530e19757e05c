import PluginBuild.Script.Tree

/-!
The package that a script declares by assigning a text to `__package__` at its top level.
-/

namespace PluginBuild.Script

def packageName : String := "__package__"

def Expr.isPackageTarget : Expr → Bool
  | .name _ id _ => id == packageName
  | _ => false

def Expr.text? : Expr → Option String
  | .constant _ (.text value) _ => some value
  | _ => none

def Stmt.packageValue? : Stmt → Option Expr
  | .assign _ [target] value => if target.isPackageTarget then some value else none
  | _ => none

def Stmt.isPackageDeclaration (s : Stmt) : Bool := s.packageValue?.isSome

def Module.package? (m : Module) : Option String :=
  (m.body.findSome? Stmt.packageValue?).bind Expr.text?

end PluginBuild.Script
