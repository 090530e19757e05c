import Mathlib.Data.List.Shortlex
import PluginBuild.Proofs.Scopes

/-!
The walk over a script's scope as a breadth-first walk. Every occurrence of a node has an address: the
position of the root that it is below, and of a part at each level further down. The walk visits the
occurrences in the order of the length of their addresses, and from left to right where it is the same.
The check of the body reports what is at fault in that order.
-/

namespace PluginBuild

namespace Script

def Node.opensScope : Node → Bool
  | .stmt (.function ..) | .stmt (.class ..) | .expr (.lambda ..) => true
  | _ => false

/-- What takes the place of a node one level further down: of a function, its decorators and defaults; of
a lambda, its defaults; of a class, its decorators, bases and keyword values; the children of any other
node. -/
def Node.entered : Node → List Node
  | .stmt (.function _ _ _ (.mk _ _ _ _ keywordDefaults _ defaults) _ decorators _) =>
    (decorators ++ defaults ++ keywordDefaults.filterMap id).map .expr
  | .expr (.lambda _ (.mk _ _ _ _ keywordDefaults _ defaults) _) =>
    (defaults ++ keywordDefaults.filterMap id).map .expr
  | .stmt (.class _ _ bases keywords _ decorators) =>
    (decorators ++ bases ++ keywords.map Keyword.value).map .expr
  | n => n.children

/-- The node at an address, where of each node certain nodes are entered. -/
def nodeAt? (enter : Node → List Node) : List Node → List Nat → Option Node
  | _, [] => none
  | roots, [i] => roots[i]?
  | roots, i :: j :: rest => roots[i]?.bind fun n => nodeAt? enter (enter n) (j :: rest)

/-- Each occurrence of a node below some roots for which something holds, once, level by level and from
left to right. -/
structure ListsBreadthFirst (roots : List Node) (holds : List Nat → Node → Prop)
    (occurrences : List (List Nat × Node)) : Prop where
  mem_iff : ∀ a n, (a, n) ∈ occurrences ↔ nodeAt? Node.entered roots a = some n ∧ holds a n
  ordered : occurrences.Pairwise fun o p => List.Shortlex (· < ·) o.1 p.1

theorem Params.defaultNodes_mk (po p : List Param) (r : Option Param) (ko : List Param)
    (keywordDefaults : List (Option Expr)) (kr : Option Param) (defaults : List Expr) :
    (Params.mk po p r ko keywordDefaults kr defaults).defaultNodes =
      (defaults ++ keywordDefaults.filterMap id).map .expr := by
  simp [Params.defaultNodes, List.map_filterMap]

theorem Node.visited_eq (n : Node) : n.visited = n.entered := by
  unfold Node.entered
  split
  · simp [Node.visited, Node.scopeHeader?, Params.defaultNodes_mk]
  · simp [Node.visited, Node.scopeHeader?, Params.defaultNodes_mk]
  · simp [Node.visited, Node.scopeHeader?]
  · rename_i noFunction noLambda noClass
    unfold Node.visited Node.scopeHeader?
    split
    · rename_i params _ _ _
      cases params
      exact (noFunction _ _ _ _ _ _ _ _ _ _ _ _ _ rfl).elim
    · rename_i params _
      cases params
      exact (noLambda _ _ _ _ _ _ _ _ _ rfl).elim
    · exact (noClass _ _ _ _ _ _ rfl).elim
    · rfl

theorem Node.scopeHeader?_eq_none {n : Node} : n.scopeHeader? = none ↔ n.opensScope = false := by
  unfold Node.scopeHeader? Node.opensScope
  split <;> simp_all

theorem Node.weight_entered_lt (n : Node) : weight n.entered < n.size := by
  rw [← n.visited_eq, Node.visited]
  cases opens : n.scopeHeader? with
  | none => exact n.weight_children_lt
  | some header => exact n.weight_scopeHeader_lt opens

/-- The walk takes some pending nodes one after the other and leaves what takes their place for later. -/
theorem scriptLevel_front (front back : List Node) :
    scriptLevel (front ++ back) =
      front.filter (!·.opensScope) ++ scriptLevel (back ++ front.flatMap Node.entered) := by
  induction front generalizing back with
  | nil => simp
  | cons n front ih =>
    rw [List.cons_append, scriptLevel]
    split
    · rename_i header opens
      have scope : n.opensScope = true := by
        rw [← Bool.not_eq_false, ← Node.scopeHeader?_eq_none, opens]
        exact Option.some_ne_none header
      have entered : n.entered = header := by rw [← n.visited_eq, Node.visited, opens, Option.getD_some]
      simp [ih, scope, entered]
    · rename_i opens
      have plain : n.opensScope = false := Node.scopeHeader?_eq_none.mp opens
      have entered : n.entered = n.children := by
        rw [← n.visited_eq, Node.visited, opens, Option.getD_none]
      simp [ih, plain, entered]

/-- The parts of what stands at an address, with their own addresses. -/
def partsAt (a : List Nat) (parts : List Node) : List (List Nat × Node) :=
  parts.zipIdx.map fun (n, i) => (a ++ [i], n)

/-- The occurrences of nodes so many levels below the roots. -/
def level (roots : List Node) : Nat → List (List Nat × Node)
  | 0 => partsAt [] roots
  | k + 1 => (level roots k).flatMap fun (a, n) => partsAt a n.entered

theorem mem_partsAt {a b : List Nat} {parts : List Node} {n : Node} :
    (b, n) ∈ partsAt a parts ↔ ∃ i, b = a ++ [i] ∧ parts[i]? = some n := by
  simp only [partsAt, List.mem_map, Prod.exists, Prod.mk.injEq, List.mk_mem_zipIdx_iff_getElem?]
  constructor
  · rintro ⟨m, i, found, rfl, rfl⟩
    exact ⟨i, rfl, found⟩
  · rintro ⟨i, rfl, found⟩
    exact ⟨n, i, found, rfl, rfl⟩

theorem partsAt_nodes (a : List Nat) (parts : List Node) : (partsAt a parts).map (·.2) = parts := by
  simp [partsAt, Function.comp_def]

theorem level_nodes (roots : List Node) (k : Nat) :
    (level roots (k + 1)).map (·.2) = ((level roots k).map (·.2)).flatMap Node.entered := by
  simp [level, List.map_flatMap, List.flatMap_map, partsAt_nodes]

theorem nodeAt?_concat (enter : Node → List Node) (roots : List Node) {a : List Nat} (i : Nat)
    (ne : a ≠ []) :
    nodeAt? enter roots (a ++ [i]) = (nodeAt? enter roots a).bind fun n => (enter n)[i]? := by
  induction a generalizing roots with
  | nil => exact absurd rfl ne
  | cons j rest ih =>
    cases rest with
    | nil => simp [nodeAt?]
    | cons k rest =>
      have := fun n : Node => ih (enter n) (List.cons_ne_nil k rest)
      simp only [List.cons_append] at this
      simp [nodeAt?, this, Option.bind_assoc]

theorem mem_level {roots : List Node} {k : Nat} {a : List Nat} {n : Node} :
    (a, n) ∈ level roots k ↔ a.length = k + 1 ∧ nodeAt? Node.entered roots a = some n := by
  induction k generalizing a n with
  | zero =>
    rw [level, mem_partsAt]
    constructor
    · rintro ⟨i, rfl, found⟩
      exact ⟨rfl, found⟩
    · rintro ⟨single, found⟩
      obtain ⟨i, rfl⟩ := List.length_eq_one_iff.mp single
      exact ⟨i, rfl, found⟩
  | succ k ih =>
    simp only [level, List.mem_flatMap, Prod.exists, mem_partsAt, ih]
    constructor
    · rintro ⟨b, m, ⟨length, found⟩, i, rfl, part⟩
      have ne : b ≠ [] := by rintro rfl; simp at length
      refine ⟨by simp [length], ?_⟩
      rw [nodeAt?_concat _ roots i ne, found, Option.bind_some, part]
    · rintro ⟨length, found⟩
      have ne : a ≠ [] := by rintro rfl; simp at length
      have split := List.dropLast_append_getLast ne
      have shorter : a.dropLast.length = k + 1 := by simp [length]
      have ne' : a.dropLast ≠ [] := by intro nil; simp [nil] at shorter
      rw [← split, nodeAt?_concat _ roots _ ne', Option.bind_eq_some_iff] at found
      obtain ⟨m, above, part⟩ := found
      exact ⟨_, m, ⟨shorter, above⟩, _, split.symm, part⟩

theorem lex_append {a b : List Nat} (before : List.Lex (· < ·) a b) (same : a.length = b.length)
    (x y : List Nat) : List.Lex (· < ·) (a ++ x) (b ++ y) := by
  induction before with
  | nil => simp at same
  | rel less => exact .rel less
  | cons _ ih => exact .cons (ih (by simpa using same))

theorem pairwise_partsAt (a : List Nat) (parts : List Node) :
    (partsAt a parts).Pairwise fun o p => List.Lex (· < ·) o.1 p.1 := by
  have ascending : (parts.zipIdx.map (·.2)).Pairwise (· < ·) := by
    rw [List.zipIdx_map_snd]
    exact List.pairwise_lt_range'
  rw [partsAt, List.pairwise_map]
  refine (List.pairwise_map.mp ascending).imp fun less => ?_
  exact List.Lex.append_left _ (.rel less) a

theorem pairwise_level (roots : List Node) (k : Nat) :
    (level roots k).Pairwise fun o p => List.Lex (· < ·) o.1 p.1 := by
  induction k with
  | zero => exact pairwise_partsAt [] roots
  | succ k ih =>
    rw [level, List.pairwise_flatMap]
    refine ⟨fun o _ => pairwise_partsAt o.1 _, ?_⟩
    have lengths : ∀ o ∈ level roots k, o.1.length = k + 1 := fun o member => (mem_level.mp member).1
    refine (List.Pairwise.and_mem.mp ih).imp ?_
    rintro ⟨a, n⟩ ⟨b, m⟩ ⟨first, second, before⟩ ⟨c, part⟩ here ⟨d, part'⟩ there
    obtain ⟨i, rfl, -⟩ := mem_partsAt.mp here
    obtain ⟨j, rfl, -⟩ := mem_partsAt.mp there
    have same := (lengths _ first).trans (lengths _ second).symm
    exact lex_append before same [i] [j]

theorem weight_flatMap_entered (ns : List Node) : weight (ns.flatMap Node.entered) + ns.length ≤ weight ns := by
  induction ns with
  | nil => simp
  | cons n ns ih =>
    have := n.weight_entered_lt
    simp only [List.flatMap_cons, weight_append, weight_cons, List.length_cons]
    omega

/-- The levels end, since each is smaller than the one above it. -/
theorem level_ends (roots : List Node) : ∃ depth, level roots depth = [] := by
  have smaller (k : Nat) : level roots k = [] ∨ weight ((level roots k).map (·.2)) + k ≤ weight roots := by
    induction k with
    | zero => exact .inr (by simp [level, partsAt_nodes])
    | succ k ih =>
      rcases ih with none | less
      · exact .inl (by simp [level, none])
      · cases here : level roots k with
        | nil => exact .inl (by simp [level, here])
        | cons o rest =>
          have := weight_flatMap_entered ((level roots k).map (·.2))
          rw [level_nodes]
          simp only [here, List.length_map, List.length_cons] at this less ⊢
          omega
  refine ⟨weight roots + 1, (smaller _).resolve_right ?_⟩
  omega

/-- The occurrences above some level of nodes that open no scope. -/
def visitedAbove (roots : List Node) (depth : Nat) : List (List Nat × Node) :=
  (List.range depth).flatMap fun k => (level roots k).filter fun o => !o.2.opensScope

theorem scriptLevel_levels (roots : List Node) (depth : Nat) : scriptLevel roots =
    (visitedAbove roots depth).map (·.2) ++ scriptLevel ((level roots depth).map (·.2)) := by
  induction depth with
  | zero => simp [visitedAbove, level, partsAt_nodes]
  | succ k ih =>
    have next := scriptLevel_front ((level roots k).map (·.2)) []
    rw [List.append_nil, List.nil_append, ← level_nodes, List.filter_map] at next
    rw [ih, next]
    simp [visitedAbove, List.range_succ, List.append_assoc, Function.comp_def]

theorem visitedAbove_lists {roots : List Node} {depth : Nat} (ends : level roots depth = []) :
    ListsBreadthFirst roots (fun _ n => n.opensScope = false) (visitedAbove roots depth) := by
  have none (k : Nat) : level roots (depth + k) = [] := by
    induction k with
    | zero => exact ends
    | succ k ih => rw [← Nat.add_assoc, level, ih, List.flatMap_nil]
  constructor
  · intro a n
    simp only [visitedAbove, List.mem_flatMap, List.mem_range, List.mem_filter, mem_level,
      Bool.not_eq_true']
    constructor
    · rintro ⟨k, -, ⟨-, found⟩, plain⟩
      exact ⟨found, plain⟩
    · rintro ⟨found, plain⟩
      have ne : a ≠ [] := by rintro rfl; exact nomatch found
      obtain ⟨k, length⟩ := Nat.exists_eq_succ_of_ne_zero (mt List.length_eq_zero_iff.mp ne)
      refine ⟨k, ?_, ⟨length, found⟩, plain⟩
      -- Further down there is nothing left to be found.
      by_contra late
      obtain ⟨more, rfl⟩ := Nat.exists_eq_add_of_le (Nat.le_of_not_lt late)
      exact List.not_mem_nil (none more ▸ mem_level.mpr ⟨length, found⟩)
  · rw [visitedAbove, List.pairwise_flatMap]
    refine ⟨fun k _ => ?_, List.pairwise_lt_range.imp fun {j k} less => ?_⟩
    · refine ((List.Pairwise.and_mem.mp (pairwise_level roots k)).imp ?_).filter _
      rintro o p ⟨first, second, before⟩
      exact .of_lex ((mem_level.mp first).1.trans (mem_level.mp second).1.symm) before
    · intro o first p second
      have above := (mem_level.mp (List.mem_of_mem_filter first)).1
      have below := (mem_level.mp (List.mem_of_mem_filter second)).1
      exact .of_length_lt (by omega)

/-- The parts of a body that lead it in are a text in front and future imports. -/
def Module.leads (m : Module) : List Nat → Bool
  | [i] => (m.body.take (i + 1)).zipIdx.all fun (s, j) => s.isFutureImport || j == 0 && s.isText
  | _ => false

/-- Whether the node at an address must not be there: anything forbidden, and a future import behind
what leads in the body. -/
def Module.isAtFault (m : Module) (a : List Nat) (n : Node) : Bool :=
  n.isForbidden || n.isFutureImport && !m.leads a

theorem lt_length_takeWhile {α : Type} (p : α → Bool) (xs : List α) (i : Nat) :
    i < (xs.takeWhile p).length ↔ i < xs.length ∧ (xs.take (i + 1)).all p = true := by
  induction xs generalizing i with
  | nil => simp
  | cons x xs ih =>
    cases h : p x with
    | false => simp [h]
    | true =>
      cases i with
      | zero => simp [h]
      | succ i => simp [h, ih]

theorem Module.leads_iff {m : Module} {i : Nat} (inside : i < m.body.length) :
    m.leads [i] = true ↔ i < preambleLength m.body := by
  have later (xs : List Stmt) (k : Nat) : ((xs.zipIdx (k + 1)).all fun (s, j) =>
      s.isFutureImport || j == 0 && s.isText) = xs.all (·.isFutureImport) := by
    induction xs generalizing k with
    | nil => rfl
    | cons s xs ih => simp [ih]
  cases body : m.body with
  | nil => simp [body] at inside
  | cons first rest =>
    rw [body, List.length_cons] at inside
    rw [Module.leads, body, List.take_succ_cons, List.zipIdx_cons, List.all_cons, later, preambleLength]
    cases text : first.isText with
    | true =>
      cases i with
      | zero => simp [text]
      | succ i =>
        have := lt_length_takeWhile (·.isFutureImport) rest i
        rw [Nat.add_lt_add_iff_right] at inside
        rw [if_pos rfl, show i + 1 < 1 + (rest.takeWhile (·.isFutureImport)).length ↔
          i < (rest.takeWhile (·.isFutureImport)).length by omega, this]
        simp [inside, text]
    | false =>
      have := lt_length_takeWhile (·.isFutureImport) (first :: rest) i
      rw [if_neg Bool.false_ne_true, this]
      simp [inside, text]

theorem Module.visitedAbove_take {m : Module} {depth : Nat} (ends : level m.nodes depth = []) :
    (visitedAbove m.nodes depth).take (preambleLength m.body) =
      partsAt [] ((m.body.take (preambleLength m.body)).map .stmt) := by
  cases depth with
  | zero =>
    have none : m.body = [] := by simpa [level, partsAt, Module.nodes] using ends
    simp [visitedAbove, none, partsAt]
  | succ depth =>
    have plain : ∀ o ∈ partsAt [] ((m.body.take (preambleLength m.body)).map Node.stmt),
        (!o.2.opensScope) = true := by
      rintro ⟨a, n⟩ member
      obtain ⟨i, -, found⟩ := mem_partsAt.mp member
      obtain ⟨s, inPreamble, rfl⟩ := List.mem_map.mp (List.mem_of_getElem? found)
      simpa using Node.scopeHeader?_eq_none.mp (of_mem_preamble inPreamble).1
    have nodes : m.nodes = (m.body.take (preambleLength m.body)).map .stmt ++
        (m.body.drop (preambleLength m.body)).map .stmt := by
      rw [Module.nodes, ← List.map_append, List.take_append_drop]
    have length : (partsAt [] ((m.body.take (preambleLength m.body)).map Node.stmt)).length =
        preambleLength m.body := by
      simp [partsAt, Nat.min_eq_left (preambleLength_le m.body)]
    rw [visitedAbove, List.range_succ_eq_map, List.flatMap_cons, level]
    conv_lhs => rw [nodes, partsAt, List.zipIdx_append, List.map_append, List.filter_append]
    rw [← partsAt, List.filter_eq_self.mpr plain, List.append_assoc, List.take_left' length]

end Script

open Script

def Script.Node.bodyMessage : Node → String
  | .stmt (.return ..) => "'return' is not allowed in the script body"
  | .stmt (.globals ..) => "'global' is not allowed in the script body"
  | .stmt (.nonlocals ..) => "'nonlocal' is not allowed in the script body"
  | .expr (.yield ..) | .expr (.yieldFrom ..) => "'yield' is not allowed in the script body"
  | .expr (.await ..) => "'await' is not allowed in the script body"
  | _ => "from __future__ imports must occur at the beginning of the script"

def Subject.bodyDiagnostic (s : Subject) (n : Node) : Diagnostic :=
  s.unit.diagnostic .error (orOne (n.pos?.map fun pos => (pos.line : Int)))
    ((n.pos?.map fun pos => (pos.column : Int)).getD 0 + 1) n.bodyMessage

theorem Script.Module.opensScope_of_isAtFault (m : Module) {a : List Nat} {n : Node}
    (fault : m.isAtFault a n = true) : n.opensScope = false := by
  unfold Node.opensScope
  split <;> first | rfl | exact nomatch fault

/-- How it ends that some errors are reported one after the other: all are delivered and counted, or the
sink refuses one of them. -/
inductive Analysis.Tells (s : Subject) (errors : List Diagnostic) (f : Findings) (w : Workspace) :
    EStateM.Result Failure Workspace (Unit × Findings) → Prop
  | all {f' : Findings} {w' : Workspace} (reported : w'.diagnostics = w.diagnostics ++ errors)
      (counted : f'.errors = f.errors + errors.length)  : Tells s errors f w (.ok ((), f') w')
  | refused {message : String} {w' : Workspace} {front back : List Diagnostic} {last : Diagnostic}
      (split : errors = front ++ last :: back)
      (refuses : s.configuration.sink.take (w.diagnostics ++ front) last = .error message)
      (reported : w'.diagnostics = w.diagnostics ++ front ++ [last]) :
      Tells s errors f w (.error (.crash message) w')

theorem message_of_bodyFault? {n : Node} {fault : BodyFault} (found : bodyFault? n = some fault) :
    fault.message = n.bodyMessage := by
  unfold bodyFault? at found
  split at found
  · split at found <;> cases found
    rfl
  all_goals cases found
  all_goals rfl

theorem isSome_bodyFault? (n : Node) : (bodyFault? n).isSome = (n.isForbidden || n.isFutureImport) := by
  rw [Bool.eq_iff_iff, Option.isSome_iff_ne_none, Ne, bodyFault?_eq_none]
  cases n.isForbidden <;> cases n.isFutureImport <;> decide

theorem Script.Module.leads_of_mem_take {m : Module} {depth : Nat} (ends : level m.nodes depth = [])
    {a : List Nat} {n : Node} (member : (a, n) ∈ (visitedAbove m.nodes depth).take (preambleLength m.body)) :
    m.leads a = true ∧ n.isForbidden = false := by
  rw [m.visitedAbove_take ends, mem_partsAt] at member
  obtain ⟨i, rfl, found⟩ := member
  have early : i < preambleLength m.body := by
    have inside := (List.getElem?_eq_some_iff.mp found).1
    rw [List.length_map, List.length_take] at inside
    omega
  obtain ⟨s, inPreamble, rfl⟩ := List.mem_map.mp (List.mem_of_getElem? found)
  exact ⟨(Module.leads_iff (by have := preambleLength_le m.body; omega)).mpr early,
    (of_mem_preamble inPreamble).2⟩

theorem Script.Module.leads_of_mem_drop {m : Module} {depth : Nat} (ends : level m.nodes depth = [])
    {a : List Nat} {n : Node} (member : (a, n) ∈ (visitedAbove m.nodes depth).drop (preambleLength m.body)) :
    m.leads a = false := by
  have first := m.visitedAbove_take ends
  have lists := visitedAbove_lists ends
  generalize visitedAbove m.nodes depth = occurrences at member first lists
  refine Bool.eq_false_iff.mpr fun leads => ?_
  -- What leads in the body is among the first occurrences, and no address comes twice.
  obtain ⟨found, -⟩ := (lists.mem_iff a n).mp (List.mem_of_mem_drop member)
  match a with
  | [] => cases leads
  | _ :: _ :: _ => cases leads
  | [i] =>
    have inside : i < m.body.length := by
      simpa [Module.nodes] using (List.getElem?_eq_some_iff.mp found).1
    have early := (Module.leads_iff inside).mp leads
    have taken : ([i], n) ∈ occurrences.take (preambleLength m.body) := by
      rw [first, mem_partsAt]
      refine ⟨i, rfl, ?_⟩
      rw [List.map_take, List.getElem?_take_of_lt early]
      exact found
    have apart := lists.ordered
    rw [← List.take_append_drop (preambleLength m.body) occurrences, List.pairwise_append] at apart
    have before := apart.2.2 _ taken _ member
    exact Std.Irrefl.irrefl _ ((List.shortlex_iff_lex rfl).mp before)

theorem bodyFaults_eq {m : Module} {depth : Nat} (ends : level m.nodes depth = []) :
    bodyFaults m = ((visitedAbove m.nodes depth).filter fun o => m.isAtFault o.1 o.2).filterMap fun o => do
      let fault ← bodyFault? o.2
      let pos ← o.2.pos?
      return (pos, fault) := by
  have visited := scriptLevel_levels m.nodes depth
  rw [ends, List.map_nil, scriptLevel, List.append_nil] at visited
  have leading : ∀ o ∈ (visitedAbove m.nodes depth).take (preambleLength m.body),
      m.isAtFault o.1 o.2 = false := by
    intro o member
    obtain ⟨leads, allowed⟩ := m.leads_of_mem_take ends member
    simp [Module.isAtFault, leads, allowed]
  have behind : ∀ o ∈ (visitedAbove m.nodes depth).drop (preambleLength m.body),
      m.isAtFault o.1 o.2 = (bodyFault? o.2).isSome := by
    intro o member
    simp [isSome_bodyFault?, Module.isAtFault, m.leads_of_mem_drop ends member]
  generalize visitedAbove m.nodes depth = occurrences at visited leading behind ⊢
  rw [bodyFaults, visited, ← List.map_drop, List.filterMap_map]
  conv_rhs => rw [← List.take_append_drop (preambleLength m.body) occurrences]
  rw [List.filter_append, List.filter_eq_nil_iff.mpr (by simpa using leading), List.nil_append,
    List.filter_congr behind, List.filterMap_filter]
  refine List.filterMap_congr fun o _ => ?_
  cases found : bodyFault? o.2 <;> simp [found]

def Subject.faultDiagnostic (s : Subject) (found : Pos × BodyFault) : Diagnostic :=
  s.unit.diagnostic .error (orOne (some (found.1.line : Int))) (found.1.column + 1) found.2.message

theorem Subject.bodyDiagnostic_of_isAtFault (s : Subject) {a : List Nat} {n : Node}
    (atFault : s.tree.isAtFault a n = true) : (do
      let fault ← bodyFault? n
      let pos ← n.pos?
      return (pos, fault)).map s.faultDiagnostic = some (s.bodyDiagnostic n) := by
  have faulty : (bodyFault? n).isSome = true := by
    rw [isSome_bodyFault?, Bool.or_eq_true]
    simp only [Module.isAtFault, Bool.or_eq_true, Bool.and_eq_true] at atFault
    exact atFault.imp_right And.left
  obtain ⟨fault, found⟩ := Option.isSome_iff_exists.mp faulty
  obtain ⟨pos, place⟩ := pos?_of_bodyFault? found
  rw [found, place]
  simp [Subject.faultDiagnostic, Subject.bodyDiagnostic, place, message_of_bodyFault? found]

theorem Analysis.tells_faults (s : Subject) (faults : List (Pos × BodyFault)) (f : Findings) (w : Workspace) :
    Analysis.Tells s (faults.map s.faultDiagnostic) f w
      ((faults.forM fun (pos, fault) => Analysis.error s pos fault.message).run f w) := by
  induction faults generalizing f w with
  | nil => exact .all (List.append_nil _).symm rfl
  | cons found rest ih =>
    obtain ⟨pos, fault⟩ := found
    let call : Analysis.Report := .error (some pos.line) (some pos.column) fault.message
    rw [Build.forM_cons_runState, List.map_cons]
    rw [show (Analysis.error s pos fault.message).run f w = _ from call.make_run s f w, Sink.deliver_run,
      show call.diagnostic s = s.faultDiagnostic (pos, fault) from rfl]
    cases taken : s.configuration.sink.take w.diagnostics (s.faultDiagnostic (pos, fault)) with
    | error message =>
      exact .refused (List.nil_append _).symm (by rw [List.append_nil, taken]) (by rw [List.append_nil])
    | ok records =>
      dsimp only
      rw [if_pos (show (s.faultDiagnostic (pos, fault)).isError = true from rfl)]
      have later := ih { f with errors := f.errors + 1 }
        { w with diagnostics := w.diagnostics ++ [s.faultDiagnostic (pos, fault)], log := w.log ++ records }
      generalize (rest.forM fun (pos, fault) => Analysis.error s pos fault.message).run _ _ = ended
        at later ⊢
      cases later with
      | all reported counted =>
        refine .all (by rw [reported, List.append_assoc]; rfl) ?_
        rw [counted, List.length_cons]
        dsimp only
        omega
      | @refused message w' front back last split refuses reported =>
        rw [split]
        refine .refused List.cons_append.symm ?_ ?_
        · rw [← refuses, List.append_assoc]
          rfl
        · rw [reported]
          simp

/-- The walk over the script's scope visits each occurrence of a node that is reached and opens no scope
itself, once, level by level and from left to right. The check of the body reports one error for each
occurrence at fault, in the same order, unless the sink refuses one. -/
theorem scriptLevel_breadthFirst (s : Subject) :
    (∃ occurrences, ListsBreadthFirst s.tree.nodes (fun _ n => n.opensScope = false) occurrences ∧
      scriptLevel s.tree.nodes = occurrences.map (·.2)) ∧
    ∃ faulty, ListsBreadthFirst s.tree.nodes (fun a n => s.tree.isAtFault a n = true) faulty ∧
      ∀ f w, Analysis.Tells s (faulty.map fun o => s.bodyDiagnostic o.2) f w ((checkBody s).run f w) := by
  obtain ⟨depth, ends⟩ := level_ends s.tree.nodes
  have lists := visitedAbove_lists ends
  have visited := scriptLevel_levels s.tree.nodes depth
  rw [ends, List.map_nil, scriptLevel, List.append_nil] at visited
  refine ⟨⟨_, lists, visited⟩,
    (visitedAbove s.tree.nodes depth).filter fun o => s.tree.isAtFault o.1 o.2, ⟨fun a n => ?_, ?_⟩, ?_⟩
  · rw [List.mem_filter, lists.mem_iff]
    constructor
    · rintro ⟨⟨found, -⟩, fault⟩
      exact ⟨found, fault⟩
    · rintro ⟨found, fault⟩
      exact ⟨⟨found, s.tree.opensScope_of_isAtFault fault⟩, fault⟩
  · exact lists.ordered.filter _
  · intro f w
    have tells := Analysis.tells_faults s (bodyFaults s.tree) f w
    rw [bodyFaults_eq ends, List.map_filterMap] at tells
    have same : ((visitedAbove s.tree.nodes depth).filter fun o => s.tree.isAtFault o.1 o.2).filterMap
        (fun o => (do
          let fault ← bodyFault? o.2
          let pos ← o.2.pos?
          return (pos, fault)).map s.faultDiagnostic) = 
        ((visitedAbove s.tree.nodes depth).filter fun o => s.tree.isAtFault o.1 o.2).map
          fun o => s.bodyDiagnostic o.2 := by
      rw [← List.filterMap_eq_map]
      refine List.filterMap_congr fun o member => ?_
      exact s.bodyDiagnostic_of_isAtFault (List.mem_filter.mp member).2
    rw [same] at tells
    rw [checkBody, bodyFaults_eq ends]
    exact tells

end PluginBuild
