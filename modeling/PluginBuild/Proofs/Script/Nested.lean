import PluginBuild.Script.Walk

/-!
The imports of a script, wherever they stand in it. A walk goes through a tree level by level; the
imports that it has come by and those in what is still before it are together always the same.
-/

namespace PluginBuild.Script

mutual

/-- The imports in a statement, from its beginning to its end. -/
def Stmt.imports : Stmt → List Stmt
  | .importModules pos names => [.importModules pos names]
  | .importFrom pos module names level => [.importFrom pos module names level]
  | .function _ _ _ _ body _ _ => importsOf body
  | .class _ _ _ _ body _ => importsOf body
  | .with _ _ _ body => importsOf body
  | .for _ _ _ _ body orelse => importsOf body ++ importsOf orelse
  | .while _ _ body orelse => importsOf body ++ importsOf orelse
  | .if _ _ body orelse => importsOf body ++ importsOf orelse
  | .match _ _ cases => importsOfCases cases
  | .try _ _ body handlers orelse final =>
    importsOf body ++ importsOfHandlers handlers ++ importsOf orelse ++ importsOf final
  | .return .. | .delete .. | .assign .. | .augAssign .. | .annAssign .. | .raise .. | .assert ..
  | .globals .. | .nonlocals .. | .expr .. | .pass _ | .break _ | .continue _ => []

def importsOf : List Stmt → List Stmt
  | [] => []
  | s :: rest => s.imports ++ importsOf rest

def importsOfHandlers : List Handler → List Stmt
  | [] => []
  | .mk _ _ _ body :: rest => importsOf body ++ importsOfHandlers rest

def importsOfCases : List MatchCase → List Stmt
  | [] => []
  | .mk _ _ body :: rest => importsOf body ++ importsOfCases rest

end

def Handler.imports : Handler → List Stmt
  | .mk _ _ _ body => importsOf body

def MatchCase.imports : MatchCase → List Stmt
  | .mk _ _ body => importsOf body

def Node.imports : Node → List Stmt
  | .stmt s => s.imports
  | .handler h => h.imports
  | .matchCase c => c.imports
  | _ => []

/-- The nodes that have statements below them, or are statements. -/
def Node.holdsStatements : Node → Bool
  | .stmt _ | .handler _ | .matchCase _ => true
  | _ => false

def Node.import? : Node → Option Stmt
  | .stmt (.importModules pos names) => some (.importModules pos names)
  | .stmt (.importFrom pos module names level) => some (.importFrom pos module names level)
  | _ => none

def Module.imports (m : Module) : List Stmt := importsOf m.body

theorem importsOf_eq (body : List Stmt) : importsOf body = (body.map Node.stmt).flatMap Node.imports := by
  induction body with
  | nil => rfl
  | cons s rest ih => rw [importsOf, ih, List.map_cons, List.flatMap_cons, Node.imports]

theorem importsOfHandlers_eq (handlers : List Handler) :
    importsOfHandlers handlers = (handlers.map Node.handler).flatMap Node.imports := by
  induction handlers with
  | nil => rfl
  | cons h rest ih =>
    cases h
    rw [importsOfHandlers, ih, List.map_cons, List.flatMap_cons, Node.imports, Handler.imports]

theorem importsOfCases_eq (cases : List MatchCase) :
    importsOfCases cases = (cases.map Node.matchCase).flatMap Node.imports := by
  induction cases with
  | nil => rfl
  | cons c rest ih =>
    cases c
    rw [importsOfCases, ih, List.map_cons, List.flatMap_cons, Node.imports, MatchCase.imports]

namespace Node

attribute [local simp] Node.children Node.fields Field.children exprField exprField? exprsField
  stmtsField holdsStatements Node.import? Node.imports Handler.imports MatchCase.imports importsOf_eq importsOfHandlers_eq
  importsOfCases_eq List.flatMap_map

theorem holdsStatements_children (n : Node) (plain : n.holdsStatements = false) :
    ∀ m ∈ n.children, m.holdsStatements = false := by
  suffices all : n.children.all (fun m => !m.holdsStatements) = true by
    simpa only [List.all_eq_true, Bool.not_eq_true'] using all
  cases n with
  | stmt s => exact nomatch plain
  | handler h => exact nomatch plain
  | matchCase c => exact nomatch plain
  | expr e =>
    cases e
    case dict pos keys values =>
      simp [Expr.fields]
      rintro (_ | key) - <;> rfl
    all_goals simp [Expr.fields]
  | pattern p => cases p <;> simp [Pattern.fields]
  | params p =>
    cases p
    simp [Params.fields]
    rintro (_ | key) - <;> rfl
  | comprehension c => cases c; simp
  | keyword k => cases k; simp
  | param p => cases p; simp
  | imported a => simp
  | withItem w => simp
  | use u => rfl
  | boolOp op => rfl
  | binaryOp op => rfl
  | unaryOp op => rfl
  | compareOp op => rfl

theorem imports_of_plain {n : Node} (plain : n.holdsStatements = false) : n.imports = [] := by
  cases n with
  | stmt s | handler h | matchCase c => exact absurd plain.symm Bool.false_ne_true
  | _ => rfl

theorem flatMap_imports_of_plain {ns : List Node} (plain : ∀ n ∈ ns, n.holdsStatements = false) :
    ns.flatMap imports = [] :=
  List.flatMap_eq_nil_iff.mpr fun n member => imports_of_plain (plain n member)

/-- What is imported in a node is the import that it is, or stands in one of its parts. -/
theorem imports_eq (n : Node) : n.imports = n.import?.toList ++ n.children.flatMap imports := by
  have empty {α : Type} (xs : List α) : xs.flatMap (fun _ => ([] : List Stmt)) = [] :=
    List.flatMap_eq_nil_iff.mpr fun _ _ => rfl
  cases n with
  | stmt s => cases s <;> simp [Stmt.fields, Stmt.imports, empty]
  | handler h => cases h; simp
  | matchCase c => cases c; simp
  | _ => exact (flatMap_imports_of_plain (holdsStatements_children _ rfl)).symm

end Node

theorem walk_imports (pending : List Node) :
    ((walk pending).filterMap Node.import?).Perm (pending.flatMap Node.imports) := by
  fun_induction walk pending with
  | case1 => exact .refl []
  | case2 n pending ih =>
    have here : (n :: walk (pending ++ n.children)).filterMap Node.import? =
        n.import?.toList ++ (walk (pending ++ n.children)).filterMap Node.import? := by
      rw [List.filterMap_cons]
      cases n.import? <;> rfl
    rw [List.flatMap_append] at ih
    rw [here, List.flatMap_cons, n.imports_eq, List.append_assoc]
    exact (ih.trans List.perm_append_comm).append_left _

theorem Module.walk_imports (m : Module) :
    ((walk m.nodes).filterMap Node.import?).Perm m.imports := by
  rw [Module.imports, importsOf_eq]
  exact Script.walk_imports m.nodes

end PluginBuild.Script
