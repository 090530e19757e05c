import PluginBuild.Code.Scope

/-!
Whether the names that are declared global or nonlocal can be bound. A nonlocal name needs a function
around that binds it; the names of a class are not seen by the scopes in it.
-/

namespace PluginBuild.Code

open PluginBuild.Script

def namesOf (roles : List (String × Role)) : List String := (roles.map (·.1)).eraseDups

def Role.isBinding : Role → Bool
  | .assigned | .parameter | .imported => true
  | _ => false

structure Bound where
  outer : Option (List String)
  own : List String

def Bound.bind (b : Bound) (name : String) (roles : List Role) (line : Int) :
    Except Fault Bound :=
  if .declared .global ∈ roles then
    if .declared .nonlocal ∈ roles then .error (.mistake (.globalAndNonlocal name) line)
    else .ok { b with outer := b.outer.map (·.filter (· != name)) }
  else if .declared .nonlocal ∈ roles then
    match b.outer with
    | none => .error (.mistake .nonlocalInModule line)
    | some outer =>
      if name ∈ outer then .ok b else .error (.mistake (.unboundNonlocal name) line)
  else if roles.any Role.isBinding then .ok { b with own := name :: b.own }
  else .ok b

def Bound.bindAll (roles : List (String × Role)) (declarations : List (String × Nat)) :
    List String → Bound → Except Fault Bound
  | [], b => .ok b
  | name :: rest, b => do
    let own := roles.filterMap fun (other, role) => if other = name then some role else none
    let line := (declarations.lookup name).getD 0
    bindAll roles declarations rest (← b.bind name own line)

def Bound.inside (b : Bound) (kind : ScopeKind) (outer : Option (List String)) : List String :=
  match kind with
  | .classBody => "__class__" :: outer.getD []
  | .module => b.outer.getD []
  | _ => b.own ++ b.outer.getD []

mutual

/-- Binds the names of a scope and of the scopes in it. `outer` holds the names of the functions
around; a module has none. -/
def Scope.bind (outer : Option (List String)) : Scope → Except Fault Unit
  | .mk kind roles declarations inner => do
    let b ← Bound.bindAll roles declarations (namesOf roles) ⟨outer, []⟩
    bindScopes (b.inside kind outer) inner

def bindScopes (outer : List String) : List Scope → Except Fault Unit
  | [] => .ok ()
  | s :: rest => do
    s.bind (some outer)
    bindScopes outer rest

end

end PluginBuild.Code
