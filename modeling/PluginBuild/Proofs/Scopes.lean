import PluginBuild.Checks.Body
import PluginBuild.Proofs.Diagnostics
import PluginBuild.Script.Parse

/-!
What the check of a script's body looks at. The walk visits the nodes that are reached from the body
when of a function, lambda or class only the header is entered, and the check passes exactly if
nothing that it looks for is among them.
-/

namespace PluginBuild

namespace Script

/-- The nodes that are reached from roots when of each node certain nodes are entered. -/
inductive Reached (enter : Node → List Node) (roots : List Node) : Node → Prop where
  | root {n : Node} (member : n ∈ roots) : Reached enter roots n
  | step {n below : Node} (reached : Reached enter roots n) (member : below ∈ enter n) :
      Reached enter roots below

namespace Reached

variable {enter : Node → List Node} {roots others : List Node} {n m : Node}

theorem trans (each : ∀ r ∈ others, Reached enter roots r) (reached : Reached enter others n) :
    Reached enter roots n := by
  induction reached with
  | root member => exact each _ member
  | step _ member ih => exact ih.step member

theorem mono {wider : Node → List Node} (enters : ∀ n, enter n ⊆ wider n)
    (reached : Reached enter roots n) : Reached wider roots n := by
  induction reached with
  | root member => exact .root member
  | step _ member ih => exact ih.step (enters _ member)

theorem nil_iff : ¬ Reached enter [] n := by
  intro reached
  induction reached with
  | root member => exact nomatch member
  | step _ _ ih => exact ih

/-- A first root is done with when what it leads to is put behind the others. -/
theorem cons_iff : Reached enter (m :: roots) n ↔ n = m ∨ Reached enter (roots ++ enter m) n := by
  constructor
  · intro reached
    induction reached with
    | root member =>
      rcases List.mem_cons.mp member with same | later
      · exact .inl same
      · exact .inr (.root (List.mem_append_left _ later))
    | step _ member ih =>
      rcases ih with rfl | later
      · exact .inr (.root (List.mem_append_right roots member))
      · exact .inr (later.step member)
  · rintro (rfl | reached)
    · exact .root List.mem_cons_self
    · refine trans (fun r member => ?_) reached
      rcases List.mem_append.mp member with old | new
      · exact .root (List.mem_cons_of_mem m old)
      · exact (root List.mem_cons_self).step new

end Reached

/-- What the walk over a script's scope goes on with behind a node. -/
def Node.visited (n : Node) : List Node := n.scopeHeader?.getD n.children

/-- The walk visits what is reached, except for the nodes that open a scope. -/
theorem mem_scriptLevel {pending : List Node} {n : Node} :
    n ∈ scriptLevel pending ↔ n.scopeHeader? = none ∧ Reached Node.visited pending n := by
  fun_induction scriptLevel pending with
  | case1 => simp [Reached.nil_iff]
  | case2 m pending header opens ih =>
    -- A node that opens a scope is left out itself, but its header is entered.
    have entered : m.visited = header := by rw [Node.visited, opens, Option.getD_some]
    rw [ih, Reached.cons_iff, entered]
    constructor
    · exact fun ⟨plain, reached⟩ => ⟨plain, .inr reached⟩
    · rintro ⟨plain, rfl | reached⟩
      · exact nomatch opens.symm.trans plain
      · exact ⟨plain, reached⟩
  | case3 m pending opens ih =>
    have entered : m.visited = m.children := by rw [Node.visited, opens, Option.getD_none]
    rw [List.mem_cons, ih, Reached.cons_iff, entered]
    constructor
    · rintro (rfl | ⟨plain, reached⟩)
      · exact ⟨opens, .inl rfl⟩
      · exact ⟨plain, .inr reached⟩
    · rintro ⟨plain, rfl | reached⟩
      · exact .inl rfl
      · exact .inr ⟨plain, reached⟩

theorem scriptLevel_append {front : List Node} (plain : ∀ n ∈ front, n.scopeHeader? = none)
    (back : List Node) :
    scriptLevel (front ++ back) = front ++ scriptLevel (back ++ front.flatMap Node.children) := by
  induction front generalizing back with
  | nil => simp
  | cons n front ih =>
    have none := plain n List.mem_cons_self
    have later : ∀ m ∈ front, m.scopeHeader? = Option.none := fun m member =>
      plain m (List.mem_cons_of_mem n member)
    rw [List.cons_append, scriptLevel]
    split
    · rename_i header opens
      exact absurd (opens.symm.trans none) (Option.some_ne_none header)
    · rw [List.append_assoc, ih later, List.append_assoc]
      rfl

theorem take_preambleLength (body : List Stmt) : ∃ text imports,
    body.take (preambleLength body) = text ++ imports ∧ text.length ≤ 1 ∧
      (∀ s ∈ text, s.isText = true) ∧ ∀ s ∈ imports, s.isFutureImport = true := by
  have takes (xs : List Stmt) : xs.take (xs.takeWhile (·.isFutureImport)).length =
      xs.takeWhile (·.isFutureImport) := by
    refine (List.prefix_iff_eq_take.mp ?_).symm
    exact List.takeWhile_prefix _
  have imported (xs : List Stmt) : ∀ s ∈ xs.takeWhile (·.isFutureImport), s.isFutureImport = true :=
    List.all_eq_true.mp List.all_takeWhile
  match body with
  | [] => exact ⟨[], [], rfl, Nat.zero_le 1, by simp, by simp⟩
  | first :: rest =>
    rw [preambleLength]
    split
    · rename_i isText
      refine ⟨[first], _, ?_, Nat.le_refl 1, by simpa using isText, imported rest⟩
      rw [Nat.add_comm, List.take_succ_cons, takes rest]
      rfl
    · exact ⟨[], _, takes (first :: rest), Nat.zero_le 1, by simp, imported (first :: rest)⟩

def Param.hint? : Param → Option Expr
  | .mk _ _ hint => hint

def Params.hints : Params → List Expr
  | .mk positionalOnly positional rest keywordOnly _ keywordRest _ =>
    (positionalOnly ++ positional ++ rest.toList ++ keywordOnly ++ keywordRest.toList).filterMap
      Param.hint?

/-- What of a node runs in the scope that the node stands in: of a function, its decorators, the
defaults and hints of its parameters and the hint of its result; of a lambda, the defaults; of a
class, decorators, bases and keyword values; all of any other node. -/
def Node.scopeParts : Node → List Node
  | .stmt (.function _ _ _ ps _ decorators returns) =>
    decorators.map .expr ++ ps.defaultNodes ++ (ps.hints ++ returns.toList).map .expr
  | .expr (.lambda _ ps _) => ps.defaultNodes
  | .stmt (.class _ _ bases keywords _ decorators) =>
    decorators.map .expr ++ bases.map .expr ++ keywords.map fun k => .expr k.value
  | n => n.children

/-- The hints of a function, which the walk leaves out. -/
def Node.hints : Node → List Node
  | .stmt (.function _ _ _ ps _ _ returns) => (ps.hints ++ returns.toList).map .expr
  | _ => []

theorem Node.scopeParts_eq (n : Node) : n.scopeParts = n.visited ++ n.hints := by
  unfold Node.scopeParts
  split
  · rfl
  · exact (List.append_nil _).symm
  · exact (List.append_nil _).symm
  · rename_i noFunction noLambda noClass
    have plain : n.scopeHeader? = none := by
      unfold Node.scopeHeader?
      split
      · exact (noFunction _ _ _ _ _ _ _ rfl).elim
      · exact (noLambda _ _ _ rfl).elim
      · exact (noClass _ _ _ _ _ _ rfl).elim
      · rfl
    have none : n.hints = [] := by
      unfold Node.hints
      split
      · exact (noFunction _ _ _ _ _ _ _ rfl).elim
      · rfl
    rw [none, List.append_nil, Node.visited, plain, Option.getD_none]

/-- What runs in a scope is visited, except for what hints of visited functions lead to. -/
theorem reached_scopeParts {roots : List Node} {n : Node} : Reached Node.scopeParts roots n ↔
    Reached Node.visited roots n ∨ ∃ function hint, Reached Node.visited roots function ∧
      hint ∈ function.hints ∧ Reached Node.scopeParts [hint] n := by
  have wider (m : Node) : m.visited ⊆ m.scopeParts := by
    rw [m.scopeParts_eq]
    exact List.subset_append_left _ _
  constructor
  · intro reached
    induction reached with
    | root member => exact .inl (.root member)
    | @step n below _ member ih =>
      -- The walk goes the same way up to the first step to a hint.
      rcases ih with visited | ⟨function, hint, visited, isHint, leads⟩
      · rw [n.scopeParts_eq, List.mem_append] at member
        rcases member with entered | isHint
        · exact .inl (visited.step entered)
        · exact .inr ⟨n, below, visited, isHint, .root List.mem_cons_self⟩
      · exact .inr ⟨function, hint, visited, isHint, leads.step member⟩
  · rintro (visited | ⟨function, hint, visited, isHint, leads⟩)
    · exact visited.mono wider
    · refine Reached.trans (fun r member => ?_) leads
      obtain rfl := List.mem_singleton.mp member
      refine (visited.mono wider).step ?_
      rw [function.scopeParts_eq]
      exact List.mem_append_right _ isHint

def Node.isFutureImport : Node → Bool
  | .stmt s => s.isFutureImport
  | _ => false

/-- Whether a node would end a function, make another kind of function of it, or change what its names
are bound to. -/
def Node.isForbidden : Node → Bool
  | .stmt (.return ..) | .stmt (.globals ..) | .stmt (.nonlocals ..)
  | .expr (.yield ..) | .expr (.yieldFrom ..) | .expr (.await ..) => true
  | _ => false

theorem Node.scopeHeader?_of_isForbidden {n : Node} (forbidden : n.isForbidden = true) :
    n.scopeHeader? = none := by
  unfold Node.isForbidden at forbidden
  split at forbidden <;> first | rfl | exact nomatch forbidden

theorem of_mem_preamble {body : List Stmt} {s : Stmt} (member : s ∈ body.take (preambleLength body)) :
    (Node.stmt s).scopeHeader? = none ∧ (Node.stmt s).isForbidden = false := by
  obtain ⟨text, imports, made, -, texts, imported⟩ := take_preambleLength body
  rw [made] at member
  rcases List.mem_append.mp member with inText | inImports
  · have := texts s inText
    cases s <;> simp_all [Stmt.isText, Node.scopeHeader?, Node.isForbidden]
  · have := imported s inImports
    cases s <;> simp_all [Stmt.isFutureImport, Node.scopeHeader?, Node.isForbidden]

theorem preambleLength_le (body : List Stmt) : preambleLength body ≤ body.length := by
  match body with
  | [] => exact Nat.le_refl 0
  | first :: rest =>
    have taken (xs : List Stmt) : (xs.takeWhile (·.isFutureImport)).length ≤ xs.length := by
      refine List.IsPrefix.length_le ?_
      exact List.takeWhile_prefix _
    have later := taken rest
    have all := taken (first :: rest)
    rw [preambleLength]
    split
    · rw [List.length_cons]
      omega
    · exact all

/-- What the check of the body looks at: what the walk visits behind the preamble. -/
def Module.checkedNodes (m : Module) : List Node :=
  (scriptLevel m.nodes).drop (preambleLength m.body)

theorem Module.scriptLevel_nodes (m : Module) :
    scriptLevel m.nodes = (m.body.take (preambleLength m.body)).map .stmt ++ m.checkedNodes ∧
      m.checkedNodes = scriptLevel ((m.body.drop (preambleLength m.body)).map .stmt ++
        ((m.body.take (preambleLength m.body)).map Node.stmt).flatMap Node.children) := by
  let front := (m.body.take (preambleLength m.body)).map Node.stmt
  let back := (m.body.drop (preambleLength m.body)).map Node.stmt
  have plain : ∀ n ∈ front, n.scopeHeader? = none := by
    intro n member
    obtain ⟨s, inPreamble, rfl⟩ := List.mem_map.mp member
    exact (of_mem_preamble inPreamble).1
  have parts : m.nodes = front ++ back := by
    rw [Module.nodes, ← List.map_append, List.take_append_drop]
  have length : front.length = preambleLength m.body := by
    rw [List.length_map, List.length_take, Nat.min_eq_left (preambleLength_le m.body)]
  have walked := scriptLevel_append plain back
  rw [← parts] at walked
  have rest : m.checkedNodes = scriptLevel (back ++ front.flatMap Node.children) := by
    rw [Module.checkedNodes, walked, ← length, List.drop_left]
  exact ⟨by rw [rest, walked], rest⟩

end Script

open Script

theorem bodyFault?_eq_none {n : Node} :
    bodyFault? n = none ↔ n.isForbidden = false ∧ n.isFutureImport = false := by
  cases n with
  | stmt s => cases s <;> simp [bodyFault?, Node.isForbidden, Node.isFutureImport, Stmt.isFutureImport]
  | expr e => cases e <;> simp [bodyFault?, Node.isForbidden, Node.isFutureImport]
  | _ => simp [bodyFault?, Node.isForbidden, Node.isFutureImport]

theorem pos?_of_bodyFault? {n : Node} {fault : BodyFault} (found : bodyFault? n = some fault) :
    ∃ pos, n.pos? = some pos := by
  cases n with
  | stmt s => exact ⟨s.pos, rfl⟩
  | expr e => exact ⟨e.pos, rfl⟩
  | _ => exact nomatch found

theorem bodyFaults_eq_nil {m : Module} : bodyFaults m = [] ↔
    (∀ n, Reached Node.visited m.nodes n → n.isForbidden = false) ∧
      ∀ n ∈ m.checkedNodes, n.isFutureImport = false := by
  have faultless : bodyFaults m = [] ↔ ∀ n ∈ m.checkedNodes, bodyFault? n = none := by
    rw [bodyFaults, List.filterMap_eq_nil_iff]
    refine forall₂_congr fun n _ => ?_
    cases found : bodyFault? n with
    | none => simp
    | some fault =>
      obtain ⟨pos, at_⟩ := pos?_of_bodyFault? found
      simp [at_]
  simp only [faultless, bodyFault?_eq_none]
  constructor
  · refine fun clean => ⟨fun n reached => ?_, fun n member => (clean n member).2⟩
    refine Bool.eq_false_iff.mpr fun forbidden => ?_
    have visited : n ∈ scriptLevel m.nodes :=
      mem_scriptLevel.mpr ⟨Node.scopeHeader?_of_isForbidden forbidden, reached⟩
    -- The preamble is not looked at, but has nothing forbidden in it.
    rw [m.scriptLevel_nodes.1, List.mem_append] at visited
    rcases visited with early | late
    · obtain ⟨s, inPreamble, rfl⟩ := List.mem_map.mp early
      exact Bool.false_ne_true ((of_mem_preamble inPreamble).2.symm.trans forbidden)
    · exact Bool.false_ne_true ((clean n late).1.symm.trans forbidden)
  · refine fun ⟨visited, behind⟩ n member => ⟨visited n ?_, behind n member⟩
    exact (mem_scriptLevel.mp (List.mem_of_mem_drop member)).2

theorem checkBody_reportsNoError (s : Subject) (f : Findings) (w : Workspace) :
    ReportsNoError checkBody s f w ↔ (∀ n, Reached Node.visited s.tree.nodes n → n.isForbidden = false) ∧
      ∀ n ∈ s.tree.checkedNodes, n.isFutureImport = false :=
  (reportsNoError_iff (fun s => bodyFaults s.tree) BodyFault.message s f w).trans bodyFaults_eq_nil

/-- If the check of a body reports no error, what is forbidden runs in the script's scope only where it
is below a hint of a function. The check reports no error exactly if nothing forbidden runs elsewhere in
the scope and no future import is visited behind the preamble. -/
theorem forbidden_only_in_hints (s : Subject) (f : Findings) (w : Workspace) :
    (ReportsNoError checkBody s f w → ∀ n, Reached Node.scopeParts s.tree.nodes n →
      n.isForbidden = true → ∃ function hint, Reached Node.visited s.tree.nodes function ∧
        hint ∈ function.hints ∧ Reached Node.scopeParts [hint] n) ∧
    (ReportsNoError checkBody s f w ↔
      (∀ n, Reached Node.visited s.tree.nodes n → n.isForbidden = false) ∧
        ∀ n ∈ s.tree.checkedNodes, n.isFutureImport = false) := by
  refine ⟨fun clean n reached forbidden => ?_, checkBody_reportsNoError s f w⟩
  rcases reached_scopeParts.mp reached with visited | inHint
  · have allowed := ((checkBody_reportsNoError s f w).mp clean).1 n visited
    exact (Bool.false_ne_true (allowed.symm.trans forbidden)).elim
  · exact inHint

/-- Whether a body is found faultless although one of its functions has something forbidden as a
hint. -/
def missesHint (m : Module) : Bool :=
  (bodyFaults m).isEmpty && m.body.any fun s => (Node.stmt s).hints.any Node.isForbidden

/-- A function whose parameter has a yield as its hint: no error is reported, and the yield runs in the
script's scope. -/
theorem yield_in_hint_unseen :
    ∃ m, Module.parse "def f(x: (yield)): pass\n".toList false = .ok m ∧
      (∀ s f w, s.tree = m → ReportsNoError checkBody s f w) ∧
      ∃ n, Reached Node.scopeParts m.nodes n ∧ n.isForbidden = true := by
  have computed : (match Module.parse "def f(x: (yield)): pass\n".toList false with
    | .ok m => missesHint m
    | .error _ => false) = true := by decide +kernel
  split at computed
  · rename_i m parsed
    simp only [missesHint, Bool.and_eq_true, List.isEmpty_iff, List.any_eq_true] at computed
    obtain ⟨faultless, statement, member, hint, isHint, forbidden⟩ := computed
    refine ⟨m, parsed, ?_, hint, ?_, forbidden⟩
    · rintro s f w rfl
      exact (checkBody_reportsNoError s f w).mpr (bodyFaults_eq_nil.mp faultless)
    · have root : Reached Node.scopeParts m.nodes (.stmt statement) :=
        .root (List.mem_map_of_mem member)
      refine root.step ?_
      rw [Node.scopeParts_eq]
      exact List.mem_append_right _ isHint
  · exact nomatch computed

end PluginBuild
