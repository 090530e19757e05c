import PluginBuild.Text.Blank

/-!
Checks by name, in the order in which they were registered. Blank characters around a name do not
count when it is registered.
-/

namespace PluginBuild

open PluginBuild.Text

inductive RegistryError where
  | emptyName
  | registered (name : String)
  | unknown (name : String)
  deriving DecidableEq, Repr

def RegistryError.message : RegistryError → String
  | .emptyName => "Check name cannot be empty"
  | .registered name => s!"Check already registered: {name}"
  | .unknown name => s!"Unknown analysis check: {name}"

structure Registry (α : Type) where
  checks : List (String × α)

namespace Registry

variable {α : Type}

def empty : Registry α := ⟨[]⟩

def names (r : Registry α) : List String := r.checks.map (·.1)

def get (r : Registry α) (name : String) : Except RegistryError α :=
  match r.checks.lookup name with
  | some check => .ok check
  | none => .error (.unknown name)

def register (r : Registry α) (name : String) (check : α) : Except RegistryError (Registry α) :=
  let name := strip name
  if name = "" then .error .emptyName
  else if r.names.contains name then .error (.registered name)
  else .ok ⟨r.checks ++ [(name, check)]⟩

def run {m : Type → Type} [Monad m] (r : Registry α) (execute : α → m Unit) (name : String) :
    ExceptT RegistryError m Unit := do
  let check ← r.get name
  execute check

end Registry

end PluginBuild
