import PluginBuild.Proofs.Script.Origins.Basic

/-!
Expressions and where their parts come from. One lemma for each rule, composed as the rules are. A field
of a formatted string is read from tokens of its own, which are of the same kind.
-/

namespace PluginBuild.Script

open Read

attribute [local simp] Node.children Node.fields Expr.fields Params.fields Field.children exprField exprField?
  exprsField

namespace Node.ComesFrom

variable {o : Origin}

theorem leaf {n : Node} (none : n.pos? = none) (bare : n.fields = []) : n.ComesFrom o := by
  refine ⟨fun pos same => ?_, fun module member => ?_, fun m member => ?_⟩
  · rw [none] at same
    exact nomatch same
  · cases n with
    | stmt s => exact nomatch none
    | _ => exact nomatch member
  · rw [children, bare] at member
    exact nomatch member

@[simp] theorem use (u : Use) : (Node.use u).ComesFrom o := leaf rfl rfl

@[simp] theorem boolOp (op : BoolOp) : (Node.boolOp op).ComesFrom o := leaf rfl rfl

@[simp] theorem binaryOp (op : BinaryOp) : (Node.binaryOp op).ComesFrom o := leaf rfl rfl

@[simp] theorem unaryOp (op : UnaryOp) : (Node.unaryOp op).ComesFrom o := leaf rfl rfl

@[simp] theorem compareOp (op : CompareOp) : (Node.compareOp op).ComesFrom o := leaf rfl rfl

theorem comprehension {target iter : Expr} {conditions : List Expr} {isAsync : Bool}
    (bound : target.ComesFrom o)
    (source : iter.ComesFrom o) (tests : ∀ e ∈ conditions, e.ComesFrom o) :
    (Node.comprehension (.mk target iter conditions isAsync)).ComesFrom o := by
  refine ⟨nofun, nofun, ?_⟩
  simp
  exact ⟨bound, source, tests⟩

theorem param {pos : Pos} {name : String} {hint : Option Expr} (place : o.place pos)
    (fit : ∀ e ∈ hint, e.ComesFrom o) : (Node.param (.mk pos name hint)).ComesFrom o := by
  refine ⟨fun p same => ?_, nofun, ?_⟩
  · obtain rfl : pos = p := Option.some.inj same
    exact place
  · simpa using fit

/-- An entry of a dictionary, whose key may be missing. -/
def IsEntry (o : Origin) (entry : Option Expr × Expr) : Prop :=
  (∀ key ∈ entry.1, key.ComesFrom o) ∧ entry.2.ComesFrom o

theorem dict {pos : Pos} {entries : List (Option Expr × Expr)} (place : o.place pos)
    (fits : ∀ entry ∈ entries, IsEntry o entry) :
    (Expr.dict pos (entries.map (·.1)) (entries.map (·.2))).ComesFrom o := by
  have keys : ∀ key, some key ∈ entries.map (·.1) → key.ComesFrom o := by
    intro key member
    obtain ⟨entry, among, same⟩ := List.mem_map.mp member
    exact (fits entry among).1 key same
  have values : ∀ value ∈ entries.map (·.2), value.ComesFrom o := by
    intro value member
    obtain ⟨entry, among, rfl⟩ := List.mem_map.mp member
    exact (fits entry among).2
  generalize entries.map (·.1) = ks at keys
  generalize entries.map (·.2) = vs at values
  refine .expr place ?_
  simp
  refine ⟨?_, values⟩
  grind

end Node.ComesFrom

theorem Expr.ComesFrom.asTarget? {o : Origin} {use : Use} {e : Expr} (comes : e.ComesFrom o) :
    ∀ t, e.asTarget? use = some t → t.ComesFrom o := by
  -- The induction is that of the function: one motive for the elements of a list or a tuple, and one
  -- for an expression.
  refine Expr.asTarget?.induct use
    (fun es => (∀ e ∈ es, e.ComesFrom o) → ∀ ts, asTarget?.targets? use es = some ts → ∀ t ∈ ts, t.ComesFrom o)
    (fun e => e.ComesFrom o → ∀ t, e.asTarget? use = some t → t.ComesFrom o)
    ?name ?attr ?subscript ?double ?deleted ?starred ?list ?tuple ?other ?nil ?cons ?fail e comes
  case name =>
    rintro pos id use comes _ ⟨⟩
    exact .expr comes.place_expr (by simp)
  case attr | subscript =>
    intros
    rename_i comes t same
    cases same
    exact .expr comes.place_expr (by simpa using comes.parts)
  case double =>
    intros
    rename_i comes t same
    cases same
  case deleted =>
    intros
    rename_i comes t same
    simp_all [Expr.asTarget?]
  case starred =>
    intro pos value use' notDel single ih comes t same
    have inner := comes.parts
    simp [Expr.asTarget?, notDel] at same inner
    obtain ⟨target, made, rfl⟩ := same
    exact .expr comes.place_expr (by simp [ih inner target made])
  case list | tuple =>
    intro pos elements use' ih comes t same
    have inner : ∀ e ∈ elements, e.ComesFrom o := fun e member => comes.parts (.expr e) (by simp [member])
    simp [Expr.asTarget?] at same
    obtain ⟨targets, made, rfl⟩ := same
    exact .expr comes.place_expr (by simpa using ih inner targets made)
  case other =>
    intro e name attr subscript starred list tuple comes t same
    cases e with
    | name pos id use => exact (name pos id use rfl).elim
    | «attribute» pos value label use => exact (attr pos value label use rfl).elim
    | subscript pos value index use => exact (subscript pos value index use rfl).elim
    | starred pos value use => exact (starred pos value use rfl).elim
    | list pos elements use => exact (list pos elements use rfl).elim
    | tuple pos elements use => exact (tuple pos elements use rfl).elim
    | _ => cases same
  case nil =>
    rintro - _ ⟨⟩ t ⟨⟩
  case cons =>
    intro e es e' es' rest first ihFirst ihRest comes ts same
    simp only [asTarget?.targets?, first, rest, Option.some.injEq] at same
    rw [← same]
    rw [List.forall_mem_cons] at comes ⊢
    exact ⟨ihFirst comes.1 e' first, ihRest comes.2 es' rest⟩
  case fail =>
    intro e es none ihFirst ihRest comes ts same
    unfold asTarget?.targets? at same
    split at same
    · rename_i e' es' first rest
      exact (none e' es' first rest).elim
    · cases same

/-- Arguments that come from tokens of the kind. -/
structure Arguments.ComesFrom (o : Origin) (a : Arguments) : Prop where
  args : ∀ e ∈ a.args, e.ComesFrom o
  keywords : ∀ k ∈ a.keywords, (Node.keyword k).ComesFrom o

def ParamRead.ComesFrom (o : Origin) (p : ParamRead) : Prop :=
  (Node.param p.param).ComesFrom o ∧ ∀ e ∈ p.default, e.ComesFrom o

structure ParamsRead.ComesFrom (o : Origin) (p : ParamsRead) : Prop where
  positionalOnly : ∀ q ∈ p.positionalOnly, q.ComesFrom o
  positional : ∀ q ∈ p.positional, q.ComesFrom o
  rest : ∀ q ∈ p.rest, (Node.param q).ComesFrom o
  keywordOnly : ∀ q ∈ p.keywordOnly, q.ComesFrom o
  keywordRest : ∀ q ∈ p.keywordRest, (Node.param q).ComesFrom o

theorem ParamsRead.ComesFrom.none {o : Origin} : ParamsRead.none.ComesFrom o :=
  ⟨nofun, nofun, nofun, nofun, nofun⟩

theorem ParamsRead.ComesFrom.toParams {o : Origin} {p : ParamsRead} (comes : p.ComesFrom o) :
    (Node.params p.toParams).ComesFrom o := by
  obtain ⟨positionalOnly, positional, rest, keywordOnly, keywordRest⟩ := comes
  refine ⟨nofun, nofun, ?_⟩
  simp [ParamsRead.toParams]
  refine ⟨fun q among => (positionalOnly q among).1, fun q among => (positional q among).1, rest,
    fun q among => (keywordOnly q among).1, ?_, keywordRest, ?_, ?_⟩
  · rintro _ q among e default rfl
    exact (keywordOnly q among).2 e default
  · rintro _ e q among default rfl
    exact (positionalOnly q among).2 e default
  · rintro _ e q among default rfl
    exact (positional q among).2 e default

section
variable {o : Origin} {pos : Pos} {parts : List (List Char ⊕ Expr)}

theorem inr_mem_joinLiterals {e : Expr} (member : .inr e ∈ joinLiterals parts) : .inr e ∈ parts := by
  fun_induction joinLiterals parts with
  | case1 => exact member
  | case2 e' rest ih => simpa using Or.imp_right ih (by simpa using member)
  | case3 text rest more rest' same ih =>
    have later : .inr e ∈ joinLiterals rest := by simpa [same] using member
    exact List.mem_cons_of_mem _ (ih later)
  | case4 text rest bare empty ih => exact List.mem_cons_of_mem _ (ih member)
  | case5 text rest bare filled ih =>
    have later : .inr e ∈ joinLiterals rest := by simpa using member
    exact List.mem_cons_of_mem _ (ih later)

theorem joinedValues_comesFrom (kind : Option String) (place : o.place pos)
    (fits : ∀ e, .inr e ∈ parts → e.ComesFrom o) : ∀ e ∈ joinedValues pos kind parts, e.ComesFrom o := by
  intro e member
  obtain ⟨part, among, rfl⟩ := List.mem_map.mp member
  cases part with
  | inl text => exact .expr place (by simp)
  | inr e => exact fits e (inr_mem_joinLiterals among)

end

/-- The rules one level further in read parts that come from tokens of the kind. -/
structure Deeper.ComesFrom (d : Deeper) (o : Origin) : Prop where
  expression : ∀ {ts}, o.tokens ts → Yields ts (Expr.ComesFrom o) (d .expression)
  inversion : ∀ {ts}, o.tokens ts → Yields ts (Expr.ComesFrom o) (d .inversion)
  factor : ∀ {ts}, o.tokens ts → Yields ts (Expr.ComesFrom o) (d .factor)
  pattern : ∀ {ts}, o.tokens ts → Yields ts (Pattern.ComesFrom o) (d .pattern)
  block : ∀ {ts}, o.tokens ts → Yields ts (fun body => ∀ s ∈ body, Stmt.ComesFrom o s) (d .block)

namespace Yields

section
variable {o : Origin} {ts : Tokens} (known : o.tokens ts)
include known

theorem here : Yields ts o.place here := .bind .peek fun t among => .pure (o.placed known t among)

theorem leftAssoc (operators : List (String × BinaryOp)) {operand : Read Expr}
    (yields : Yields ts (Expr.ComesFrom o) operand) :
      Yields ts (Expr.ComesFrom o) (leftAssoc operators operand) := by
  refine .bind (here known) fun pos place => .bind yields fun e fit => .fold _ fit fun left fit => ?_
  refine .after .peek fun t => .ite .nothing ?_
  split
  · exact .nothing
  · exact .after .advance fun _ => .bind yields fun right fine => .something (.expr place (by simp [fit, fine]))

theorem logical (word : String) (op : BoolOp) {operand : Read Expr}
    (yields : Yields ts (Expr.ComesFrom o) operand) :
      Yields ts (Expr.ComesFrom o) (logical word op operand) := by
  refine .bind (here known) fun pos place => .bind yields fun first fit => .after (.isNext word) fun more => ?_
  refine .ite (.pure fit)
    (.bind (.collect _ fit fun done fits => .after (.accept word) fun _ => .ite ?_ .nothing)
    fun reversed fits => .pure (.expr place (by simpa using fits)))
  exact .cons yields fits

omit known in
theorem asTarget {use : Use} {e : Expr} (comes : e.ComesFrom o) :
    Yields ts (Expr.ComesFrom o) (asTarget use e) := by
  unfold Script.asTarget
  split
  · rename_i t same
    exact .pure (comes.asTarget? t same)
  · exact .mismatch

theorem number : Yields ts (Expr.ComesFrom o) number := by
  refine .bind (.expectKind .number) fun t ⟨among, _⟩ => ?_
  split
  · exact .pure (.expr (o.placed known t among) (by simp))
  · exact .throw _

end

section
variable {o : Origin} {d : Deeper} (deeper : d.ComesFrom o)
include deeper

theorem bitwiseOr {ts : Tokens} (known : o.tokens ts) : Yields ts (Expr.ComesFrom o) (bitwiseOr d) :=
  .leftAssoc known _ (.leftAssoc known _ (.leftAssoc known _ (.leftAssoc known _ (.leftAssoc known _
    (.leftAssoc known _ (deeper.factor known))))))

variable {ts : Tokens} (known : o.tokens ts)
include known

theorem comparison : Yields ts (Expr.ComesFrom o) (comparison d) := by
  refine .bind (here known) fun pos place => .bind (bitwiseOr deeper known) fun first fit => ?_
  refine .bind (.fold (fun state => ∀ e ∈ state.2, e.ComesFrom o) nofun fun (ops, comparators) fits => ?_)
    fun (ops, comparators) fits => .ite (.pure fit) (.pure (.expr place (by simpa [fit] using fits)))
  refine .after .compareOperator? fun op => ?_
  split
  · exact .nothing
  · refine .bind (bitwiseOr deeper known) fun e fine => .something ?_
    exact List.forall_mem_cons.mpr ⟨fine, fits⟩

theorem inversion : Yields ts (Expr.ComesFrom o) (inversion d) := by
  refine .bind (here known) fun pos place => .after (.accept "not") fun _ => .ite ?_ (comparison deeper known)
  exact .bind (deeper.inversion known) fun e fit => .pure (.expr place (by simp [fit]))

theorem disjunction : Yields ts (Expr.ComesFrom o) (disjunction d) :=
  .logical known "or" .or (.logical known "and" .and (inversion deeper known))

theorem starred {pos : Pos} (place : o.place pos) :
    Yields ts (Expr.ComesFrom o) (do return .starred pos (← Script.bitwiseOr d) .load) :=
  .bind (bitwiseOr deeper known) fun e fit => .pure (.expr place (by simp [fit]))

theorem starExpression : Yields ts (Expr.ComesFrom o) (starExpression d) := by
  refine .bind (here known) fun pos place => .after (.accept "*") fun _ => ?_
  exact .ite (starred deeper known place) (deeper.expression known)

theorem starExpressions : Yields ts (Expr.ComesFrom o) (starExpressions d) := by
  refine .bind (here known) fun pos place => .bind (.commaList _ (starExpression deeper known))
    fun (elements, trailing) fits => ?_
  dsimp only
  split
  · exact .pure (fits _ List.mem_cons_self)
  · exact .pure (.expr place (by simpa using fits))

theorem namedExpression : Yields ts (Expr.ComesFrom o) (namedExpression d) := by
  refine .after (.isNameBefore ":=") fun _ => .ite (.bind .peek fun t among => ?_) (deeper.expression known)
  have place := o.placed known t among
  refine .after .advance fun _ => .after .advance fun _ => .bind (deeper.expression known) fun e fit => ?_
  have name : (Expr.name t.pos (identifierOf t.text) .store).ComesFrom o := .expr place (by simp)
  exact .pure (.expr place (by simp [name, fit]))

theorem starNamedExpression : Yields ts (Expr.ComesFrom o) (starNamedExpression d) := by
  refine .bind (here known) fun pos place => .after (.accept "*") fun _ => ?_
  exact .ite (starred deeper known place) (namedExpression deeper known)

theorem yieldExpression : Yields ts (Expr.ComesFrom o) (yieldExpression d) := by
  refine .bind (here known) fun pos place => .after (.expect "yield") fun _ =>
    .after (.accept "from") fun _ => ?_
  refine .ite (.bind (deeper.expression known) fun e fit => .pure (.expr place (by simp [fit]))) ?_
  refine .after .peek fun t => .ite ?_ (.pure (.expr place (by simp)))
  exact .bind (starExpressions deeper known) fun e fit => .pure (.expr place (by simp [fit]))

theorem assignedValue : Yields ts (Expr.ComesFrom o) (assignedValue d) :=
  .after (.isNext "yield") fun _ => .ite (yieldExpression deeper known) (starExpressions deeper known)

theorem loopTarget {pos : Pos} (place : o.place pos) : Yields ts (Expr.ComesFrom o) (do
    if ← Read.accept "*" then Script.asTarget .store (.starred pos (← d .factor) .load)
    else Script.asTarget .store (← d .factor)) := by
  refine .after (.accept "*") fun _ => .ite ?_ (.bind (deeper.factor known) fun e fit => .asTarget fit)
  exact .bind (deeper.factor known) fun e fit => .asTarget (.expr place (by simp [fit]))

theorem loopTargets : Yields ts (Expr.ComesFrom o) (loopTargets d) := by
  refine .bind (here known) fun pos place => .bind (.commaList _ (.bind (here known) fun _ place =>
    loopTarget deeper known place)) fun (elements, trailing) fits => ?_
  dsimp only
  split
  · exact .pure (fits _ List.mem_cons_self)
  · exact .pure (.expr place (by simpa using fits))

theorem clauses : Yields ts (fun cs => ∀ c ∈ cs, (Node.comprehension c).ComesFrom o) (clauses d) := by
  have conditions : Yields ts (fun es => ∀ e ∈ es, Expr.ComesFrom o e) (Read.fold [] fun done => do
      if ← Read.accept "if" then return some ((← Script.disjunction d) :: done)
      return none) :=
    .fold (fun es => ∀ e ∈ es, Expr.ComesFrom o e) nofun fun done fits => .after (.accept "if") fun _ =>
      .ite (.cons (disjunction deeper known) fits) .nothing
  have clause : Yields ts (fun c => (Node.comprehension c).ComesFrom o) (do
      let isAsync ← Read.accept "async"
      Read.expect "for"
      let target ← Script.loopTargets d
      Read.expect "in"
      let iter ← Script.disjunction d
      let conditions ← Read.fold [] fun done => do
        if ← Read.accept "if" then return some ((← Script.disjunction d) :: done)
        return none
      return Comprehension.mk target iter conditions.reverse isAsync) := by
    refine .after (.accept "async") fun _ => .after (.expect "for") fun _ => ?_
    refine .bind (loopTargets deeper known) fun target bound => .after (.expect "in") fun _ => ?_
    refine .bind (disjunction deeper known) fun iter source => .bind conditions fun tests fits => ?_
    exact .pure (.comprehension bound source (by simpa using fits))
  refine .bind clause fun first fit => .bind (.collect _ fit fun done fits => ?_)
    fun reversed fits => .pure fun c member => fits c (List.mem_reverse.mp member)
  exact .after .isClauseNext fun _ => .ite (.cons clause fits) .nothing

theorem parenthesized : Yields ts (Expr.ComesFrom o) (parenthesized d) := by
  refine .bind (here known) fun pos place => .after (.expect "(") fun _ => .after (.accept ")") fun _ => ?_
  refine .ite (.pure (.expr place (by simp))) (.after (.isNext "yield") fun _ => .ite ?yield ?other)
  case yield => exact .bind (yieldExpression deeper known) fun e fit => .after (.expect ")") fun _ => .pure fit
  case other =>
    refine .bind (starNamedExpression deeper known) fun first fit => .after (.isNext ",") fun _ =>
      .ite ?tuple ?one
    case tuple =>
      refine .bind (.commaRest _ (starNamedExpression deeper known) (by simp [fit]))
        fun read fits => .after (.expect ")") fun _ => .pure (.expr place (by simpa using fits))
    case one =>
      refine .otherwise (.after .isClauseNext fun _ => .ite ?_ (.after (.expect ")") fun _ => .pure fit))
      refine .bind (clauses deeper known) fun generators fits => .after (.expect ")") fun _ => ?_
      exact .pure (.expr place (by simpa [fit] using fits))

theorem listDisplay : Yields ts (Expr.ComesFrom o) (listDisplay d) := by
  refine .bind (here known) fun pos place => .after (.expect "[") fun _ => .after (.accept "]") fun _ => ?_
  refine .ite (.pure (.expr place (by simp))) ?_
  refine .bind (starNamedExpression deeper known) fun first fit => .after (.and .isClauseNext) fun _ =>
    .ite ?_ ?_
  · refine .bind (clauses deeper known) fun generators fits => .after (.expect "]") fun _ => ?_
    exact .pure (.expr place (by simpa [fit] using fits))
  · refine .bind (.commaRest _ (starNamedExpression deeper known) (by simp [fit]))
      fun read fits => .after (.expect "]") fun _ => .pure (.expr place (by simpa using fits))

theorem dictEntry : Yields ts (Node.ComesFrom.IsEntry o) (dictEntry d) := by
  refine .after (.accept "**") fun _ => .ite (.bind (bitwiseOr deeper known) fun e fit => .pure ⟨nofun, fit⟩) ?_
  refine .bind (deeper.expression known) fun key fit => .after (.expect ":") fun _ => ?_
  exact .bind (deeper.expression known) fun value fine => .pure ⟨forall_mem_some fit, fine⟩

theorem braceDisplay : Yields ts (Expr.ComesFrom o) (braceDisplay d) := by
  have finish : ∀ {pos first}, o.place pos → Node.ComesFrom.IsEntry o first → Yields ts (Expr.ComesFrom o) (do
      let read ← Read.commaRest (fun t => t.startsExpr || t.is "**") (Script.dictEntry d) [first]
      Read.expect "\x7d"
      return .dict pos (read.1.map (·.1)) (read.1.map (·.2))) := by
    intro pos first place fit
    refine .bind (.commaRest _ (dictEntry deeper known) (by simpa using fit))
      fun read fits => .after (.expect _) fun _ => .pure (.dict place fits)
  refine .bind (here known) fun pos place => .after (.expect _) fun _ => .after (.accept _) fun _ => ?_
  refine .ite (.pure (.expr place (by simp))) (.after (.isNext "**") fun _ => .ite ?unpacked ?other)
  case unpacked => exact .bind (dictEntry deeper known) fun first fit => finish place fit
  case other =>
    refine .bind (starNamedExpression deeper known) fun first fit => .after (.and (.accept ":")) fun _ =>
      .ite ?dict ?set
    case dict =>
      refine .bind (deeper.expression known) fun value fine => .after .isClauseNext fun _ => .ite ?_ ?_
      · refine .bind (clauses deeper known) fun generators fits => .after (.expect _) fun _ => ?_
        exact .pure (.expr place (by simpa [fit, fine] using fits))
      · exact finish place ⟨forall_mem_some fit, fine⟩
    case set =>
      refine .after (.and .isClauseNext) fun _ => .ite ?_ ?_
      · refine .bind (clauses deeper known) fun generators fits => .after (.expect _) fun _ => ?_
        exact .pure (.expr place (by simpa [fit] using fits))
      · refine .bind (.commaRest _ (starNamedExpression deeper known) (by simp [fit]))
          fun read fits => .after (.expect _) fun _ => .pure (.expr place (by simpa using fits))

theorem argument {done : Arguments} (comes : done.ComesFrom o) :
    Yields ts (Arguments.ComesFrom o) (argument d done) := by
  refine .bind .peek fun t among => ?_
  have place := o.placed known t among
  refine .after (.accept "**") fun _ => .ite ?mapping ?other
  case mapping =>
    refine .bind (deeper.expression known) fun e fit => .pure ⟨comes.args, ?_⟩
    exact List.forall_mem_cons.mpr ⟨.keyword place fit, comes.keywords⟩
  case other =>
    refine .after (.accept "*") fun _ => .ite (.otherwise ?_) (.after (.isNameBefore "=") fun _ => .ite ?_ ?_)
    · refine .bind (deeper.expression known) fun e fit => .pure ⟨?_, comes.keywords⟩
      exact List.forall_mem_cons.mpr ⟨.expr place (by simp [fit]), comes.args⟩
    · refine .after .advance fun _ => .after .advance fun _ => .bind (deeper.expression known) fun e fit => ?_
      exact .pure ⟨comes.args, List.forall_mem_cons.mpr ⟨.keyword place fit, comes.keywords⟩⟩
    · refine .otherwise (.bind (namedExpression deeper known) fun e fit => .pure ⟨?_, comes.keywords⟩)
      exact List.forall_mem_cons.mpr ⟨fit, comes.args⟩

theorem arguments (allowGenerator : Bool) :
    Yields ts (fun read => (∀ e ∈ read.1, e.ComesFrom o) ∧ ∀ k ∈ read.2, (Node.keyword k).ComesFrom o)
      (arguments d allowGenerator) := by
  refine .bind (here known) fun pos place => .after (.expect "(") fun _ => .after (.accept ")") fun _ => ?_
  refine .ite (.pure ⟨List.forall_mem_nil _, List.forall_mem_nil _⟩)
    (.bind (argument deeper known ⟨List.forall_mem_nil _, List.forall_mem_nil _⟩) fun first comes => ?_)
  dsimp only
  split
  case' h_1 e only _ =>
    refine .after (.and .isClauseNext) fun _ => .ite ?_ ?_
    · refine .bind (clauses deeper known) fun generators fits => .after (.expect ")") fun _ => ?_
      refine .pure ⟨?_, List.forall_mem_nil _⟩
      have fit : e.ComesFrom o := comes.args e (only ▸ List.mem_cons_self)
      exact List.forall_mem_singleton.mpr (.expr place (by simpa [fit] using fits))
  -- What is left, with a generator ruled out or not, are the arguments behind the first.
  all_goals
    refine .bind (.fold (fun state => state.1.ComesFrom o) comes fun _ comes =>
      .nextEntry (Arguments.ComesFrom o) comes (argument deeper known comes)) fun _ comes => ?_
    refine .after (.expect ")") fun _ => .pure ⟨fun e member => ?_, fun k member => ?_⟩
    · exact comes.args e (List.mem_reverse.mp member)
    · exact comes.keywords k (List.mem_reverse.mp member)

theorem bound : Yields ts (fun found => ∀ e ∈ found, Expr.ComesFrom o e) (do
    if (← Read.peek).startsExpr then return some (← d .expression) else return none) :=
  .after .peek fun _ => .ite (.bind (deeper.expression known) fun _ fit => .something fit) .nothing

theorem subscriptPart : Yields ts (Expr.ComesFrom o) (subscriptPart d) := by
  have slice : ∀ {pos first}, o.place pos → (∀ e ∈ first, Expr.ComesFrom o e) → Yields ts (Expr.ComesFrom o) (do
      Read.expect ":"
      let upper ← (do if (← Read.peek).startsExpr then return some (← d .expression) else return none)
      let step ← if ← Read.accept ":" then
          (do if (← Read.peek).startsExpr then return some (← d .expression) else return none)
        else Pure.pure none
      return Expr.slice pos first upper step) := by
    intro pos first place fit
    have whole : ∀ {upper step : Option Expr}, (∀ e ∈ upper, e.ComesFrom o) → (∀ e ∈ step, e.ComesFrom o) →
        (Expr.slice pos first upper step).ComesFrom o := by
      intro upper step above each
      refine .expr place ?_
      simp
      exact ⟨fit, above, each⟩
    refine .after (.expect ":") fun _ => .bind (bound deeper known) fun upper above => ?_
    refine .after (.accept ":") fun _ => .ite ?_ (.bind .nothing fun step each => .pure (whole above each))
    exact .bind (bound deeper known) fun step each => .pure (whole above each)
  refine .bind (here known) fun pos place => .after (.accept "*") fun _ => .ite (starred deeper known place) ?_
  refine .after (.isNext ":") fun _ =>
    .ite (slice place (by simp)) (.bind (namedExpression deeper known) fun first fit => ?_)
  exact .after (.isNext ":") fun _ => .ite (.pure fit) (slice place (forall_mem_some fit))

theorem subscripts : Yields ts (Expr.ComesFrom o) (subscripts d) := by
  refine .bind (here known) fun pos place => .bind (.commaList _ (subscriptPart deeper known))
    fun (parts, trailing) fits => ?_
  dsimp only
  split
  · exact .pure (.expr place (by simpa using fits))
  · exact .pure (fits _ List.mem_cons_self)
  · exact .pure (.expr place (by simpa using fits))

theorem param (hints starHint : Bool) :
    Yields ts (fun p => (Node.param p).ComesFrom o) (param d hints starHint) := by
  refine .bind (.expectKind .name) fun t ⟨among, _⟩ => .after (.and (.accept ":")) fun _ => ?_
  have hinted : ∀ {hint : Option Expr}, (∀ e ∈ hint, e.ComesFrom o) →
      (Node.param (.mk t.pos (identifierOf t.text) hint)).ComesFrom o := .param (o.placed known t among)
  refine .ite (.ite ?_ ?_) (.pure (hinted nofun))
  · exact .bind (starExpression deeper known) fun e fit => .pure (hinted (forall_mem_some fit))
  · exact .bind (deeper.expression known) fun e fit => .pure (hinted (forall_mem_some fit))

theorem paramEntry (hints : Bool) {done : ParamsRead} (comes : done.ComesFrom o) :
    Yields ts (ParamsRead.ComesFrom o) (paramEntry d hints done) := by
  unfold Script.paramEntry
  have ⟨positionalOnly, positional, rest, keywordOnly, keywordRest⟩ := comes
  refine .otherwise (.after (.accept "**") fun _ => .ite ?stars ?other)
  case stars =>
    exact .bind (param deeper known _ _) fun p fit =>
      .pure ⟨positionalOnly, positional, rest, keywordOnly, forall_mem_some fit⟩
  case other =>
    refine .after (.accept "*") fun _ => .ite (.otherwise ?_) (.after (.accept "/") fun _ => .ite ?_ ?_)
    · refine .after (.isNext ",") fun _ =>
        .ite (.pure ⟨positionalOnly, positional, rest, keywordOnly, keywordRest⟩) ?_
      exact .bind (param deeper known _ _) fun p fit =>
        .pure ⟨positionalOnly, positional, forall_mem_some fit, keywordOnly, keywordRest⟩
    · exact .otherwise (.pure ⟨positional, nofun, rest, keywordOnly, keywordRest⟩)
    · have finish : ∀ {p default}, (Node.param p).ComesFrom o → (∀ e ∈ default, Expr.ComesFrom o e) →
          Yields ts (ParamsRead.ComesFrom o) (do
            if done.hasStar then return { done with keywordOnly := ⟨p, default⟩ :: done.keywordOnly }
            let earlier := done.positional ++ done.positionalOnly
            if default.isNone && earlier.any (·.default.isSome) then Read.mismatch
            return { done with positional := ⟨p, default⟩ :: done.positional }) := by
        intro p default fit fine
        refine .ite (.pure ⟨positionalOnly, positional, rest, ?_, keywordRest⟩)
          (.otherwise (.pure ⟨positionalOnly, ?_, rest, keywordOnly, keywordRest⟩))
        · exact List.forall_mem_cons.mpr ⟨⟨fit, fine⟩, keywordOnly⟩
        · exact List.forall_mem_cons.mpr ⟨⟨fit, fine⟩, positional⟩
      refine .bind (param deeper known _ _) fun p fit => .after (.accept "=") fun _ => .ite ?_ ?_
      · exact .bind (.optional (deeper.expression known)) fun default fine => finish fit fine
      · exact .bind .nothing fun default fine => finish fit fine

theorem params (hints : Bool) : Yields ts (fun p => (Node.params p).ComesFrom o) (params d hints) := by
  refine .after .peek fun t => .ite (.pure ParamsRead.ComesFrom.none.toParams) ?_
  refine .bind (paramEntry deeper known hints .none) fun first comes => ?_
  refine .bind (.fold (fun state => state.1.ComesFrom o) comes fun (done, ended) comes =>
    .nextEntry (ParamsRead.ComesFrom o) comes (paramEntry deeper known hints comes))
      fun (done, ended) comes => ?_
  exact .otherwise (.pure comes.toParams)

theorem lambdaExpression : Yields ts (Expr.ComesFrom o) (lambdaExpression d) := by
  refine .bind (here known) fun pos place => .after (.expect "lambda") fun _ => ?_
  refine .bind (params deeper known false) fun ps fits => .after (.expect ":") fun _ => ?_
  exact .bind (deeper.expression known) fun e fit => .pure (.expr place (by simp [fits, fit]))

theorem expression : Yields ts (Expr.ComesFrom o) (expression d) := by
  refine .after (.isNext "lambda") fun _ => .ite (lambdaExpression deeper known) ?_
  refine .bind (here known) fun pos place => .bind (disjunction deeper known) fun body fit => ?_
  refine .after (.accept "if") fun _ => .ite (.bind (disjunction deeper known) fun test fine => ?_) (.pure fit)
  refine .after (.expect "else") fun _ => .bind (deeper.expression known) fun e last => ?_
  exact .pure (.expr place (by simp [fit, fine, last]))

omit known in
/-- The expression is read from tokens of its own; then those around the string come back. -/
theorem fieldExpression {brace : Pos} {text : List Char} (inner : o.tokens (fieldTokens brace text)) :
    Yields ts (Expr.ComesFrom o) (fieldExpression d brace text) := by
  refine .elsewhere (.tryCatch (.bind (.attempt (starExpressions deeper inner)) fun found fits => ?_)
    fun stop ts => ?_)
  · split
    · exact .pure (fits _ rfl)
    · exact .faultHere _
  · split
    · refine .bind .get fun _ _ => ?_
      split
      · exact .throw _
      · exact .faultHere _
    · exact .throw _

omit known in
theorem formatValues {pos : Pos} {kind : Option String} {isRaw : Bool} (place : o.place pos) {nesting : Nat}
    {parts : List FormatPart}
    (inner : ∀ {brace text}, HoldsField brace text parts → o.tokens (fieldTokens brace text)) :
    Yields ts (fun values => ∀ e, .inr e ∈ values → Expr.ComesFrom o e)
      (formatValues d pos kind isRaw nesting parts) := by
  induction nesting, parts using formatValues.induct with
  | case1 => exact .pure nofun
  | case2 nesting => cases nesting <;> exact .pure nofun
  | case3 nesting text rest ih =>
    refine .after (.literalValue isRaw text) fun value =>
      .bind (ih fun holds => inner (.behind holds)) fun more fits => ?_
    exact .pure (by simpa using fits)
  | case4 nesting brace text shown conversion spec rest ih ihSpec =>
    refine .bind (fieldExpression deeper (inner .here)) fun value fit => ?_
    have finish : ∀ {mark format}, (∀ e ∈ format, Expr.ComesFrom o e) →
        Yields ts (fun values => ∀ e, .inr e ∈ values → Expr.ComesFrom o e) (do
          let more ← Script.formatValues d pos kind isRaw nesting rest
          return shown.toList.map .inl ++ .inr (.formatted pos value mark format) :: more) := by
      intro mark format formed
      have field : (Expr.formatted pos value mark format).ComesFrom o :=
        .expr place (by simpa [fit] using formed)
      exact .bind (ih fun holds => inner (.behind holds)) fun more fits => .pure (by simpa [field] using fits)
    cases spec with
    | none => exact .bind .nothing fun format formed => finish formed
    | some parts =>
      refine .bind (ihSpec parts fun holds => inner (.inside holds)) fun values made => ?_
      refine .bind (.something ?_) fun format formed => finish formed
      exact .expr place (by simpa using joinedValues_comesFrom kind place made)

theorem strings : Yields ts (Expr.ComesFrom o) (strings d) := by
  refine .bind (.expectKind .string) fun first fit => ?_
  have place := o.placed known first fit.1
  refine .bind (.collect (fun t => t ∈ ts.list ∧ t.kind = .string) fit fun done fits =>
    .bind .peek fun t among => ?_)
    fun reversed fits => ?_
  · refine .dite (fun isString => ?_) fun _ => .nothing
    exact .after .advance fun _ => .something (List.forall_mem_cons.mpr ⟨⟨among, isString⟩, fits⟩)
  refine .ite (.ite (.after (fun _ => .faultHere _) fun _ => ?mixed) ?bytes) ?text
  case mixed | bytes =>
    refine .bind (.mapM (fun _ => True) fun entry _ => ?_) fun pieces _ => .pure (.expr place (by simp))
    refine .ite (.after (fun _ => .faultAt _ _) fun _ => ?wide) ?narrow
    case wide | narrow =>
      dsimp only
      split
      · exact .pure trivial
      · exact .faultHere _
  case text =>
    refine .bind (.mapM (fun values => ∀ e, .inr e ∈ values → Expr.ComesFrom o e) fun entry member => ?_)
      fun pieces fits => ?_
    · obtain ⟨t, earlier, rfl⟩ := List.mem_map.mp member
      obtain ⟨among, isString⟩ := fits t (List.mem_reverse.mp earlier)
      refine .ite ?_ (.after (.literalValue _ _) fun value => .pure (by simp))
      dsimp only
      split
      · exact .faultHere _
      · rename_i parts split
        exact formatValues deeper place fun holds => o.inner known t among isString ⟨parts, split, holds⟩
    · have whole : ∀ e, .inr e ∈ pieces.flatten → Expr.ComesFrom o e := by
        intro e member
        obtain ⟨values, among, found⟩ := List.mem_flatten.mp member
        exact fits values among e found
      exact .ite (.pure (.expr place (by simpa using joinedValues_comesFrom _ place whole)))
        (.pure (.expr place (by simp)))

theorem atom : Yields ts (Expr.ComesFrom o) (atom d) := by
  refine .bind .peek fun t among => ?_
  have place := o.placed known t among
  split
  · exact .after .advance fun _ => .pure (.expr place (by simp))
  · exact number known
  · exact strings deeper known
  · refine .ite (parenthesized deeper known)
      (.ite (listDisplay deeper known) (.ite (braceDisplay deeper known) ?_))
    dsimp only
    split
    · exact .after .advance fun _ => .pure (.expr place (by simp))
    · exact .mismatch

theorem trailer {pos : Pos} {e : Expr} (place : o.place pos) (fit : e.ComesFrom o) :
    Yields ts (fun more => ∀ e ∈ more, Expr.ComesFrom o e) (trailer d pos e) := by
  refine .after (.accept ".") fun _ =>
    .ite (.after .identifier fun _ => .something (.expr place (by simp [fit]))) ?_
  refine .after (.isNext "(") fun _ => .ite ?_ (.after (.accept "[") fun _ => .ite ?_ .nothing)
  · refine .bind (arguments deeper known true) fun read fits => .something (.expr place ?_)
    simp [fit]
    exact fits
  · refine .bind (subscripts deeper known) fun index fine => .after (.expect "]") fun _ => ?_
    exact .something (.expr place (by simp [fit, fine]))

theorem primary : Yields ts (Expr.ComesFrom o) (primary d) := by
  refine .bind (here known) fun pos place => .bind (atom deeper known) fun e fit => ?_
  exact .fold _ fit fun e fit => trailer deeper known place fit

theorem power : Yields ts (Expr.ComesFrom o) (power d) := by
  have exponent : ∀ {pos base}, o.place pos → Expr.ComesFrom o base → Yields ts (Expr.ComesFrom o) (do
      if ← Read.accept "**" then return Expr.binary pos base .pow (← d .factor)
      return base) := by
    intro pos base place fit
    refine .after (.accept "**") fun _ => .ite (.bind (deeper.factor known) fun e fine => ?_) (.pure fit)
    exact .pure (.expr place (by simp [fit, fine]))
  refine .bind (here known) fun pos place => .after (.accept "await") fun _ => .ite ?_ ?_
  · refine .bind (primary deeper known) fun e fit => .bind (.pure ?_) fun base fine => exponent place fine
    exact .expr place (by simp [fit])
  · exact .bind (primary deeper known) fun base fit => exponent place fit

theorem factor : Yields ts (Expr.ComesFrom o) (factor d) := by
  have signed : ∀ {pos op}, o.place pos →
      Yields ts (Expr.ComesFrom o) (do return .unary pos op (← d .factor)) :=
    fun place => .bind (deeper.factor known) fun e fit => .pure (.expr place (by simp [fit]))
  refine .bind (here known) fun pos place => .after (.accept "+") fun _ => .ite (signed place) ?_
  refine .after (.accept "-") fun _ => .ite (signed place) ?_
  exact .after (.accept "~") fun _ => .ite (signed place) (power deeper known)

end
end Yields
end PluginBuild.Script
