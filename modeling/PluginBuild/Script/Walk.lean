import PluginBuild.Script.Node

/-!
Breadth-first walks over a syntax tree. `walk` visits every node. `scriptLevel` visits what runs in
the script's own scope: a function, lambda or class is left out, and the parts of it that are
evaluated around its scope stand in for it. Both end because the nodes that replace a visited one
are together smaller than it.
-/

namespace PluginBuild.Script

noncomputable def Node.size : Node → Nat
  | .stmt s => sizeOf s
  | .expr e => sizeOf e
  | .comprehension c => sizeOf c
  | .keyword k => sizeOf k
  | .params p => sizeOf p
  | .param p => sizeOf p
  | .imported a => sizeOf a
  | .withItem w => sizeOf w
  | .pattern p => sizeOf p
  | .handler h => sizeOf h
  | .matchCase c => sizeOf c
  | .use u => sizeOf u
  | .boolOp op => sizeOf op
  | .binaryOp op => sizeOf op
  | .unaryOp op => sizeOf op
  | .compareOp op => sizeOf op

noncomputable def weight : List Node → Nat
  | [] => 0
  | n :: ns => n.size + weight ns

@[simp] theorem weight_nil : weight [] = 0 := rfl

@[simp] theorem weight_cons (n : Node) (ns : List Node) :
    weight (n :: ns) = n.size + weight ns := rfl

@[simp] theorem weight_append (ms ns : List Node) :
    weight (ms ++ ns) = weight ms + weight ns := by
  induction ms with
  | nil => simp
  | cons m ms ih => rw [List.cons_append, weight_cons, weight_cons, ih, Nat.add_assoc]

theorem weight_map_le {α : Type} [SizeOf α] (f : α → Node) (size : ∀ a, (f a).size = sizeOf a)
    (as : List α) : weight (as.map f) < sizeOf as := by
  induction as with
  | nil => simp
  | cons a as ih => simp [size]; omega

theorem weight_exprs (xs : List Expr) : weight (xs.map .expr) < sizeOf xs :=
  weight_map_le .expr (fun _ => rfl) xs

theorem weight_stmts (xs : List Stmt) : weight (xs.map .stmt) < sizeOf xs :=
  weight_map_le .stmt (fun _ => rfl) xs

theorem weight_generators (xs : List Comprehension) : weight (xs.map .comprehension) < sizeOf xs :=
  weight_map_le .comprehension (fun _ => rfl) xs

theorem weight_keywords (xs : List Keyword) : weight (xs.map .keyword) < sizeOf xs :=
  weight_map_le .keyword (fun _ => rfl) xs

theorem weight_params (xs : List Param) : weight (xs.map .param) < sizeOf xs :=
  weight_map_le .param (fun _ => rfl) xs

theorem weight_patterns (xs : List Pattern) : weight (xs.map .pattern) < sizeOf xs :=
  weight_map_le .pattern (fun _ => rfl) xs

theorem weight_compareOps (xs : List CompareOp) : weight (xs.map .compareOp) < sizeOf xs :=
  weight_map_le .compareOp (fun _ => rfl) xs

theorem weight_aliases (xs : List Alias) : weight (xs.map .imported) < sizeOf xs :=
  weight_map_le .imported (fun _ => rfl) xs

theorem weight_withItems (xs : List WithItem) : weight (xs.map .withItem) < sizeOf xs :=
  weight_map_le .withItem (fun _ => rfl) xs

theorem weight_handlers (xs : List Handler) : weight (xs.map .handler) < sizeOf xs :=
  weight_map_le .handler (fun _ => rfl) xs

theorem weight_matchCases (xs : List MatchCase) : weight (xs.map .matchCase) < sizeOf xs :=
  weight_map_le .matchCase (fun _ => rfl) xs

theorem weight_optional_exprs (es : List (Option Expr)) :
    weight (es.filterMap (·.map .expr)) < sizeOf es := by
  induction es with
  | nil => simp
  | cons e es ih =>
    cases e with
    | none => simp; omega
    | some e => simp [Node.size]; omega

theorem weight_optional_expr (e : Option Expr) : weight (e.map .expr).toList < sizeOf e := by
  cases e <;> simp [Node.size]

theorem weight_optional_param (p : Option Param) : weight (p.map .param).toList < sizeOf p := by
  cases p <;> simp [Node.size]

theorem weight_optional_pattern (p : Option Pattern) :
    weight (p.map .pattern).toList < sizeOf p := by
  cases p <;> simp [Node.size]

attribute [local grind! .] weight_exprs weight_stmts weight_generators weight_keywords weight_params
  weight_patterns weight_compareOps weight_aliases weight_withItems weight_handlers
  weight_matchCases weight_optional_exprs weight_optional_expr weight_optional_param
  weight_optional_pattern

attribute [local simp] exprField exprField? exprsField stmtsField Field.children Node.size

theorem Expr.weight_children_lt (e : Expr) :
    weight (e.fields.flatMap (·.2.children)) < sizeOf e := by
  cases e <;> simp [Expr.fields] <;> grind

theorem Pattern.weight_children_lt (p : Pattern) :
    weight (p.fields.flatMap (·.2.children)) < sizeOf p := by
  cases p <;> simp [Pattern.fields] <;> grind

theorem Params.weight_children_lt (p : Params) :
    weight (p.fields.flatMap (·.2.children)) < sizeOf p := by
  cases p; simp [Params.fields]; grind

theorem Stmt.weight_children_lt (s : Stmt) :
    weight (s.fields.flatMap (·.2.children)) < sizeOf s := by
  cases s <;> simp [Stmt.fields] <;> grind

theorem Node.weight_children_lt (n : Node) : weight n.children < n.size := by
  cases n with
  | stmt s => exact s.weight_children_lt
  | expr e => exact e.weight_children_lt
  | params p => exact p.weight_children_lt
  | pattern p => exact p.weight_children_lt
  | comprehension c => cases c; simp [Node.children, Node.fields]; grind
  | keyword k => cases k; simp +arith [Node.children, Node.fields]
  | param p => cases p; simp [Node.children, Node.fields]; grind
  | imported a => cases a; simp +arith [Node.children, Node.fields]
  | withItem w => cases w; simp [Node.children, Node.fields]; grind
  | handler h => cases h; simp [Node.children, Node.fields]; grind
  | matchCase c => cases c; simp [Node.children, Node.fields]; grind
  | use u => cases u <;> simp [Node.children, Node.fields]
  | boolOp op => cases op <;> simp [Node.children, Node.fields]
  | binaryOp op => cases op <;> simp [Node.children, Node.fields]
  | unaryOp op => cases op <;> simp [Node.children, Node.fields]
  | compareOp op => cases op <;> simp [Node.children, Node.fields]

def Params.defaultNodes : Params → List Node
  | .mk _ _ _ _ keywordDefaults _ defaults =>
    defaults.map .expr ++ keywordDefaults.filterMap (·.map .expr)

/-- The parts of a function, lambda or class that are evaluated outside its own scope: decorators,
then base classes and keyword values, or the defaults of parameters. -/
def Node.scopeHeader? : Node → Option (List Node)
  | .stmt (.function _ _ _ ps _ decorators _) => some (decorators.map .expr ++ ps.defaultNodes)
  | .expr (.lambda _ ps _) => some ps.defaultNodes
  | .stmt (.class _ _ bases keywords _ decorators) =>
    some (decorators.map .expr ++ bases.map .expr ++ keywords.map fun k => .expr k.value)
  | _ => none

theorem weight_keyword_values (ks : List Keyword) :
    weight (ks.map fun k => .expr k.value) < sizeOf ks := by
  induction ks with
  | nil => simp
  | cons k ks ih =>
    obtain ⟨_, _, value⟩ := k
    rw [List.map_cons, weight_cons, List.cons.sizeOf_spec, Keyword.mk.sizeOf_spec]
    change sizeOf value + weight (ks.map fun k => .expr k.value) < _
    omega

theorem Params.weight_defaultNodes_lt (p : Params) : weight p.defaultNodes < sizeOf p := by
  cases p; simp [Params.defaultNodes]; grind

theorem Node.weight_scopeHeader_lt {n : Node} {header : List Node}
    (opens : n.scopeHeader? = some header) : weight header < n.size := by
  unfold Node.scopeHeader? at opens
  split at opens
  case h_1 pos isAsync name params body decorators returns =>
    cases opens
    have := params.weight_defaultNodes_lt
    simp
    grind
  case h_2 pos params body =>
    cases opens
    have := params.weight_defaultNodes_lt
    simp
    omega
  case h_3 pos name bases keywords body decorators =>
    cases opens
    have := weight_keyword_values keywords
    simp
    grind
  case h_4 => cases opens

def walk : List Node → List Node
  | [] => []
  | n :: pending => n :: walk (pending ++ n.children)
termination_by pending => weight pending
decreasing_by
  have := n.weight_children_lt
  rw [weight_append, weight_cons]
  omega

/-- The nodes that run in the scope of the given ones, level by level. The header of a nested scope
takes its place one level further down. -/
def scriptLevel : List Node → List Node
  | [] => []
  | n :: pending =>
    match _opens : n.scopeHeader? with
    | some header => scriptLevel (pending ++ header)
    | none => n :: scriptLevel (pending ++ n.children)
termination_by pending => weight pending
decreasing_by
  · have := Node.weight_scopeHeader_lt _opens
    rw [weight_append, weight_cons]
    omega
  · have := n.weight_children_lt
    rw [weight_append, weight_cons]
    omega

end PluginBuild.Script
