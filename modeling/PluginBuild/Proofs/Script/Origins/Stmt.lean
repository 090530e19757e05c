import PluginBuild.Script.Parse
import PluginBuild.Proofs.Script.Origins.Pattern

/-!
Statements and where their parts come from, rule by rule, up to a whole script: of what kind the places and
the names among its tokens are, of that kind are the places and the modules in its tree.
-/

namespace PluginBuild.Script

open Read

attribute [local simp] Node.children Node.fields Stmt.fields Expr.fields Field.children exprField exprField?
  exprsField stmtsField

namespace Node.ComesFrom

variable {o : Origin}

theorem imported {a : Alias} (place : o.place a.pos) : (Node.imported a).ComesFrom o := by
  refine ⟨fun pos same => ?_, nofun, by simp⟩
  obtain rfl : a.pos = pos := Option.some.inj same
  exact place

theorem withItem {manager : Expr} {target : Option Expr} (fit : manager.ComesFrom o)
    (bound : ∀ e ∈ target, e.ComesFrom o) : (Node.withItem ⟨manager, target⟩).ComesFrom o := by
  refine ⟨nofun, nofun, ?_⟩
  simp [fit]
  exact bound

theorem handler {pos : Pos} {type : Option Expr} {name : Option String} {body : List Stmt} (place : o.place pos)
    (fit : ∀ e ∈ type, e.ComesFrom o) (inside : ∀ s ∈ body, s.ComesFrom o) :
    (Node.handler (.mk pos type name body)).ComesFrom o := by
  refine ⟨fun p same => ?_, nofun, ?_⟩
  · obtain rfl : pos = p := Option.some.inj same
    exact place
  · simp
    exact ⟨fit, inside⟩

theorem matchCase {p : Pattern} {guard : Option Expr} {body : List Stmt} (fit : p.ComesFrom o)
    (tested : ∀ e ∈ guard, e.ComesFrom o) (inside : ∀ s ∈ body, s.ComesFrom o) :
    (Node.matchCase (.mk p guard body)).ComesFrom o := by
  refine ⟨nofun, nofun, ?_⟩
  simp
  exact ⟨fit, tested, inside⟩

end Node.ComesFrom

namespace Yields

section
variable {o : Origin} {ts : Tokens} (known : o.tokens ts)
include known

theorem identifier : Yields ts o.name identifier :=
  .bind (.expectKind .name) fun t ⟨among, isName⟩ => .pure (o.named known t among isName)

theorem moduleName : Yields ts o.name moduleName := by
  refine .bind (identifier known) fun first fit => .fold _ fit fun name fit => .after (.accept ".") fun _ => ?_
  exact .ite (.bind (identifier known) fun part fine => .something (o.joined fit fine)) .nothing

theorem importStatement : Yields ts (Stmt.ComesFrom o) importStatement := by
  have one : Yields ts (fun a : Alias => o.place a.pos ∧ o.name a.name) (do
      let pos ← Read.here
      let name ← Script.moduleName
      return ⟨pos, name, ← Script.boundName⟩) := by
    refine .bind (here known) fun pos place => .bind (moduleName known) fun name fit => ?_
    exact .after .boundName fun _ => .pure ⟨place, fit⟩
  refine .bind (here known) fun pos place => .after (.expect "import") fun _ => .bind one fun first fit => ?_
  refine .bind (.collect (fun a => o.place a.pos ∧ o.name a.name) fit fun done fits =>
    .after (.accept ",") fun _ => .ite (.cons one fits) .nothing) fun reversed fits => .pure ⟨?_, ?_, ?_⟩
  · rintro _ ⟨⟩
    exact place
  · intro module member
    obtain ⟨a, among, rfl⟩ := List.mem_map.mp member
    exact (fits a (List.mem_reverse.mp among)).2
  · simp
    exact fun a among => .imported (fits a among).1

theorem importedNames :
    Yields ts (fun aliases => ∀ a ∈ aliases, (Node.imported a).ComesFrom o) importedNames := by
  have one : Yields ts (fun a => (Node.imported a).ComesFrom o) (do
      let pos ← Read.here
      let name ← Read.identifier
      return ⟨pos, name, ← Script.boundName⟩) := by
    refine .bind (here known) fun pos place => .after .identifier fun name => ?_
    exact .after .boundName fun _ => .pure (.imported place)
  refine .bind (here known) fun pos place => .after (.accept "*") fun _ => .ite (.pure ?_) ?_
  · exact List.forall_mem_singleton.mpr (.imported place)
  · refine .after (.accept "(") fun _ =>
      .ite ?_ (.bind (.commaList _ one) fun _ fits => .otherwise (.pure fits))
    exact .bind (.commaList _ one) fun _ fits => .after (.expect ")") fun _ => .pure fits

theorem importFromStatement : Yields ts (Stmt.ComesFrom o) importFromStatement := by
  have finish : ∀ {pos module level}, o.place pos → (∀ name ∈ module, o.name name) →
      Yields ts (Stmt.ComesFrom o) (do
      Read.expect "import"
      return .importFrom pos module (← Script.importedNames) level) := by
    intro pos module level place fit
    refine .after (.expect "import") fun _ => .bind (importedNames known) fun aliases fits => .pure ⟨?_, ?_, ?_⟩
    · rintro _ ⟨⟩
      exact place
    · intro name member
      unfold neededModules at member
      split at member
      · rename_i same
        cases same
      · rename_i module₁ aliases₁ same
        cases same
        split at member
        · cases member
        · rw [List.mem_singleton.mp member]
          exact fit module₁ rfl
      · cases member
    · simpa using fits
  refine .bind (here known) fun pos place => .after (.expect "from") fun _ =>
    .after .leadingDots fun level => ?_
  refine .after (.and (.isNext "import")) fun _ => .ite ?_ ?_
  · exact .bind .nothing fun module fit => finish place fit
  · exact .bind (.optional (moduleName known)) fun module fit => finish place fit

omit known in
theorem assignedTarget {e : Expr} (fit : e.ComesFrom o) : Yields ts (Expr.ComesFrom o) (assignedTarget e) := by
  unfold Script.assignedTarget
  split
  · split
    · exact .throw _
    · exact .mismatch
  · exact .asTarget fit

omit known in
theorem singleTarget {e : Expr} (fit : e.ComesFrom o) : Yields ts (Expr.ComesFrom o) (singleTarget e) := by
  unfold Script.singleTarget
  split
  · exact .asTarget fit
  · exact .asTarget fit
  · exact .asTarget fit
  · exact .mismatch

end

section
variable {o : Origin} {d : Deeper} (deeper : d.ComesFrom o) {ts : Tokens} (known : o.tokens ts)
include deeper known

theorem expressionStatement : Yields ts (Stmt.ComesFrom o) (expressionStatement d) := by
  refine .bind .peek fun first among => ?_
  have place := o.placed known first among
  refine .ite (.bind (yieldExpression deeper known) fun e fit => .pure (.stmt rfl place (by simp [fit]))) ?_
  refine .bind (starExpressions deeper known) fun e fit => .after .peek fun t =>
    .ite ?assign (.ite ?hint ?other)
  case assign =>
    refine .bind (.fold (fun state => (∀ e ∈ state.1, e.ComesFrom o) ∧ state.2.ComesFrom o)
      ⟨List.forall_mem_nil _, fit⟩ fun state both => ?_) fun state both => ?_
    · obtain ⟨fits, fit⟩ := both
      refine .after (.accept "=") fun _ => .ite (.bind (assignedTarget fit) fun target bound => ?_) .nothing
      refine .bind (assignedValue deeper known) fun value fine => .something ?_
      exact ⟨List.forall_mem_cons.mpr ⟨bound, fits⟩, fine⟩
    · obtain ⟨fits, fit⟩ := both
      refine .pure (.stmt rfl place ?_)
      simp [fit]
      exact fits
  case hint =>
    have whole : ∀ {target hint : Expr} {value simple}, target.ComesFrom o → hint.ComesFrom o →
        (∀ e ∈ value, Expr.ComesFrom o e) →
          (Stmt.annAssign first.pos target hint value simple).ComesFrom o := by
      intro target hint value simple bound fine fits
      refine .stmt rfl place ?_
      simp [bound, fine]
      exact fits
    refine .bind (singleTarget fit) fun target bound => .after .advance fun _ => ?_
    refine .bind (deeper.expression known) fun hint fine => .after (.accept "=") fun _ => .ite ?_ ?_
    · exact .bind (.optional (assignedValue deeper known)) fun value fits => .pure (whole bound fine fits)
    · exact .bind .nothing fun value fits => .pure (whole bound fine fits)
  case other =>
    split
    · refine .bind (singleTarget fit) fun target bound => .after .advance fun _ => ?_
      exact .bind (assignedValue deeper known) fun value fine => .pure (.stmt rfl place (by simp [bound, fine]))
    · exact .pure (.stmt rfl place (by simp [fit]))

theorem deleteStatement : Yields ts (Stmt.ComesFrom o) (deleteStatement d) := by
  refine .bind (here known) fun pos place => .after (.expect "del") fun _ => ?_
  refine .bind (.commaList _ (.bind (deeper.factor known) fun e fit => .asTarget fit))
    fun (targets, _) fits => ?_
  exact .after .peek fun _ => .otherwise (.pure (.stmt rfl place (by simpa using fits)))

theorem returnStatement : Yields ts (Stmt.ComesFrom o) (returnStatement d) := by
  refine .bind (here known) fun pos place => .after (.expect "return") fun _ => .after .peek fun _ => ?_
  refine .ite ?_ (.pure (.stmt rfl place (by simp)))
  exact .bind (starExpressions deeper known) fun e fit => .pure (.stmt rfl place (by simp [fit]))

theorem raiseStatement : Yields ts (Stmt.ComesFrom o) (raiseStatement d) := by
  have whole : ∀ {pos e cause}, o.place pos → Expr.ComesFrom o e → (∀ e ∈ cause, Expr.ComesFrom o e) →
      (Stmt.raise pos (some e) cause).ComesFrom o := by
    intro pos e cause place fit fine
    refine .stmt rfl place ?_
    simp [fit]
    exact fine
  refine .bind (here known) fun pos place => .after (.expect "raise") fun _ => .after .peek fun _ => ?_
  refine .ite (.pure (.stmt rfl place (by simp))) (.bind (deeper.expression known) fun e fit => ?_)
  refine .after (.accept "from") fun _ => .ite ?_ ?_
  · exact .bind (.optional (deeper.expression known)) fun cause fine => .pure (whole place fit fine)
  · exact .bind .nothing fun cause fine => .pure (whole place fit fine)

theorem assertStatement : Yields ts (Stmt.ComesFrom o) (assertStatement d) := by
  have whole : ∀ {pos test message}, o.place pos → Expr.ComesFrom o test → (∀ e ∈ message, Expr.ComesFrom o e) →
      (Stmt.assert pos test message).ComesFrom o := by
    intro pos test message place fit fine
    refine .stmt rfl place ?_
    simp [fit]
    exact fine
  refine .bind (here known) fun pos place => .after (.expect "assert") fun _ => ?_
  refine .bind (deeper.expression known) fun test fit => .after (.accept ",") fun _ => .ite ?_ ?_
  · exact .bind (.optional (deeper.expression known)) fun message fine => .pure (whole place fit fine)
  · exact .bind .nothing fun message fine => .pure (whole place fit fine)

theorem simpleStatement : Yields ts (Stmt.ComesFrom o) (simpleStatement d) := by
  refine .bind .peek fun t among => .ite ?_ (expressionStatement deeper known)
  have place := o.placed known t among
  split
  · exact .after .advance fun _ => .pure (.stmt rfl place (by simp))
  · exact .after .advance fun _ => .pure (.stmt rfl place (by simp))
  · exact .after .advance fun _ => .pure (.stmt rfl place (by simp))
  · exact importStatement known
  · exact importFromStatement known
  · exact deleteStatement deeper known
  · exact returnStatement deeper known
  · exact raiseStatement deeper known
  · exact assertStatement deeper known
  · exact .after .advance fun _ => .after .names fun _ => .pure (.stmt rfl place (by simp))
  · exact .after .advance fun _ => .after .names fun _ => .pure (.stmt rfl place (by simp))
  · exact expressionStatement deeper known

theorem simpleStatements : Yields ts (fun body => ∀ s ∈ body, Stmt.ComesFrom o s) (simpleStatements d) := by
  have one := simpleStatement deeper known
  refine .bind one fun first fit => .bind (.fold (fun state => ∀ s ∈ state.1, Stmt.ComesFrom o s)
    (List.forall_mem_singleton.mpr fit) fun (done, ended) fits => .ite .nothing ?_)
      fun (reversed, ended) fits => ?_
  · refine .after (.accept ";") fun _ => .ite .nothing (.after .peek fun t => .ite (.something fits) ?_)
    exact .bind one fun s fine => .something (List.forall_mem_cons.mpr ⟨fine, fits⟩)
  · exact .after (.expectKind .newline) fun _ => .pure fun s member => fits s (List.mem_reverse.mp member)

theorem blockOf (owner : String) (line : Nat) :
    Yields ts (fun body => ∀ s ∈ body, Stmt.ComesFrom o s) (blockOf d owner line) := by
  have inside := deeper.block known
  refine .after (.expect ":") fun _ => .after .peek fun t => .ite ?_ inside
  exact .after .peekSecond fun next => .ite (.after (fun _ => .indentationFault _) fun _ => inside) inside

theorem blockAfter (word : String) (line : Nat) :
    Yields ts (fun body => ∀ s ∈ body, Stmt.ComesFrom o s) (blockAfter d word line) :=
      blockOf deeper known _ line

theorem elseBlock : Yields ts (fun body => ∀ s ∈ body, Stmt.ComesFrom o s) (elseBlock d) := by
  refine .after .peek fun t => .after (.accept "else") fun _ => .ite ?_ (.pure nofun)
  exact blockAfter deeper known _ _

theorem finallyBlock : Yields ts (fun body => ∀ s ∈ body, Stmt.ComesFrom o s) (finallyBlock d) := by
  refine .after .peek fun t => .after (.accept "finally") fun _ => .ite ?_ (.pure nofun)
  exact blockAfter deeper known _ _

theorem ifRest (word : String) (remaining : Nat) : Yields ts (Stmt.ComesFrom o) (ifRest d word remaining) := by
  induction remaining generalizing word with
  | zero => exact .throw _
  | succ remaining ih =>
    refine .bind .peek fun t among => .after (.expect word) fun _ => ?_
    have place := o.placed known t among
    refine .bind (namedExpression deeper known) fun test fit =>
      .bind (blockAfter deeper known word t.line) fun body fits => ?_
    refine .after (.isNext "elif") fun _ => .ite ?_ ?_
    · refine .bind (ih "elif") fun s last => .pure (.stmt rfl place ?_)
      simp [fit, last]
      exact fits
    · refine .bind (elseBlock deeper known) fun orelse fine => .pure (.stmt rfl place ?_)
      simp [fit]
      exact ⟨fits, fine⟩

theorem whileStatement : Yields ts (Stmt.ComesFrom o) (whileStatement d) := by
  refine .bind .peek fun t among => .after (.expect "while") fun _ => ?_
  refine .bind (namedExpression deeper known) fun test fit =>
    .bind (blockAfter deeper known _ _) fun body fits => ?_
  refine .bind (elseBlock deeper known) fun orelse fine => .pure (.stmt rfl (o.placed known t among) ?_)
  simp [fit]
  exact ⟨fits, fine⟩

theorem forStatement {pos : Pos} (place : o.place pos) (isAsync : Bool) :
    Yields ts (Stmt.ComesFrom o) (forStatement d pos isAsync) := by
  refine .after .peek fun t => .after (.expect "for") fun _ =>
    .bind (loopTargets deeper known) fun target bound => ?_
  refine .after (.expect "in") fun _ => .bind (starExpressions deeper known) fun iter fit => ?_
  refine .bind (blockAfter deeper known _ _) fun body fits => ?_
  refine .bind (elseBlock deeper known) fun orelse fine => .pure (.stmt rfl place ?_)
  simp [bound, fit]
  exact ⟨fits, fine⟩

theorem withItem : Yields ts (fun w => (Node.withItem w).ComesFrom o) (withItem d) := by
  refine .bind (deeper.expression known) fun manager fit => .after (.accept "as") fun _ =>
    .ite ?_ (.pure (.withItem fit nofun))
  refine .bind (here known) fun pos place => .after (.accept "*") fun _ => .ite ?_ ?_
  · refine .bind (deeper.factor known) fun e fine =>
      .bind (.asTarget (.expr place (by simp [fine]))) fun target bound => ?_
    exact .pure (.withItem fit (forall_mem_some bound))
  · refine .bind (deeper.factor known) fun e fine => .bind (.asTarget fine) fun target bound => ?_
    exact .pure (.withItem fit (forall_mem_some bound))

theorem withItems : Yields ts (fun items => ∀ w ∈ items, (Node.withItem w).ComesFrom o) (withItems d) := by
  have one := withItem deeper known
  have plain : Yields ts (fun items => ∀ w ∈ items, (Node.withItem w).ComesFrom o) (do
      let reversed ← Read.fold [← Script.withItem d] fun done => do
        if ← Read.accept "," then return some ((← Script.withItem d) :: done)
        return none
      return reversed.reverse) := by
    refine .bind one fun first fit =>
      .bind (.collect (fun w => (Node.withItem w).ComesFrom o) fit fun done fits => ?_)
      fun reversed fits => .pure ?_
    · exact .after (.accept ",") fun _ => .ite (.cons one fits) .nothing
    · exact fun w member => fits w (List.mem_reverse.mp member)
  have bracketed : Yields ts (fun items => ∀ w ∈ items, (Node.withItem w).ComesFrom o) (do
      Read.expect "("
      let read ← Read.commaList Token.startsExpr (Script.withItem d)
      Read.expect ")"
      if !(← Read.isNext ":") then Read.mismatch
      return read.1) := by
    refine .after (.expect "(") fun _ => .bind (.commaList _ one) fun read fits => ?_
    exact .after (.expect ")") fun _ => .after (.isNext ":") fun _ => .otherwise (.pure fits)
  refine .after (.isNext "(") fun _ => .ite (.bind (.attempt bracketed) fun items fits => ?_) plain
  cases items with
  | some items => exact .pure (fits items rfl)
  | none => exact plain

theorem withStatement {pos : Pos} (place : o.place pos) (isAsync : Bool) :
    Yields ts (Stmt.ComesFrom o) (withStatement d pos isAsync) := by
  refine .after .peek fun t => .after (.expect "with") fun _ =>
    .bind (withItems deeper known) fun items fits => ?_
  refine .bind (blockAfter deeper known _ _) fun body fine => .pure (.stmt rfl place ?_)
  simp
  exact ⟨fits, fine⟩

theorem handler (isStar : Bool) : Yields ts (fun h => (Node.handler h).ComesFrom o) (handler d isStar) := by
  have caught : ∀ t ∈ ts.list, Yields ts (fun h => (Node.handler h).ComesFrom o) (do
      if ← Pure.pure !isStar <&&> Read.isNext ":" then
        return .mk t.pos none none (← Script.blockAfter d "except" t.line)
      let type ← d .expression
      let name ← Script.boundName
      let word := if isStar then "except*" else "except"
      return .mk t.pos (some type) name (← Script.blockAfter d word t.line)) := by
    intro t among
    have place := o.placed known t among
    refine .after (.and (.isNext ":")) fun _ => .ite ?_ ?_
    · exact .bind (blockAfter deeper known _ _) fun body fits => .pure (.handler place nofun fits)
    · refine .bind (deeper.expression known) fun type fit => .after .boundName fun name => ?_
      refine .bind (blockAfter deeper known _ _) fun body fits => .pure (.handler place ?_ fits)
      exact forall_mem_some fit
  refine .bind .peek fun t among => .after (.expect "except") fun _ => .ite ?_ (caught t among)
  exact .after (.expect "*") fun _ => caught t among

theorem tryStatement : Yields ts (Stmt.ComesFrom o) (tryStatement d) := by
  have one := handler deeper known
  have whole : ∀ {pos isStar body handlers orelse final}, o.place pos → (∀ s ∈ body, Stmt.ComesFrom o s) →
      (∀ h ∈ handlers, (Node.handler h).ComesFrom o) → (∀ s ∈ orelse, Stmt.ComesFrom o s) →
      (∀ s ∈ final, Stmt.ComesFrom o s) → (Stmt.try pos isStar body handlers orelse final).ComesFrom o := by
    intro pos isStar body handlers orelse final place fits caught fine last
    refine .stmt rfl place ?_
    simp
    exact ⟨fits, caught, fine, last⟩
  refine .bind .peek fun t among => .after (.expect "try") fun _ =>
    .bind (blockAfter deeper known _ _) fun body fits => ?_
  have place := o.placed known t among
  refine .after .peek fun next => .ite ?_ ?_
  · exact .bind (finallyBlock deeper known) fun final last =>
      .pure (whole place fits (List.forall_mem_nil _) (List.forall_mem_nil _) last)
  have rest : Yields ts (Stmt.ComesFrom o) (do
      let isStar := (← Read.peekSecond).is "*"
      let reversed ← Read.fold [← Script.handler d isStar] fun done => do
        if ← Read.isNext "except" then return some ((← Script.handler d isStar) :: done)
        return none
      let orelse ← Script.elseBlock d
      return .try t.pos isStar body reversed.reverse orelse (← Script.finallyBlock d)) := by
    refine .after .peekSecond fun star => .bind (one _) fun first fit => ?_
    refine .bind (.collect _ fit fun done fits => .after (.isNext "except") fun _ =>
      .ite (.cons (one _) fits) .nothing)
      fun reversed caught => ?_
    refine .bind (elseBlock deeper known) fun orelse fine =>
      .bind (finallyBlock deeper known) fun final last => ?_
    exact .pure (whole place fits (fun h member => caught h (List.mem_reverse.mp member)) fine last)
  exact .ite (.after (fun _ => .faultHere _) fun _ => rest) rest

theorem functionStatement {pos : Pos} (place : o.place pos) (isAsync : Bool) {decorators : List Expr}
    (above : ∀ e ∈ decorators, e.ComesFrom o) :
    Yields ts (Stmt.ComesFrom o) (functionStatement d pos isAsync decorators) := by
  have body : ∀ {name ps returns} (line : Nat), (Node.params ps).ComesFrom o →
      (∀ e ∈ returns, Expr.ComesFrom o e) →
      Yields ts (Stmt.ComesFrom o) (do
        let body ← Script.blockOf d "function definition" line
        return .function pos isAsync name ps body decorators returns) := by
    intro name ps returns line fits fit
    refine .bind (blockOf deeper known _ _) fun body inside => .pure (.stmt rfl place ?_)
    simp [fits]
    exact ⟨inside, above, fit⟩
  refine .after .peek fun t => .after (.expect "def") fun _ => .after .identifier fun name => ?_
  refine .after (.expect "(") fun _ => .bind (params deeper known true) fun ps fits =>
    .after (.expect ")") fun _ => ?_
  refine .after (.accept "->") fun _ => .ite ?_ ?_
  · exact .bind (.optional (deeper.expression known)) fun returns fit => body _ fits fit
  · exact .bind .nothing fun returns fit => body _ fits fit

theorem classStatement {decorators : List Expr} (above : ∀ e ∈ decorators, e.ComesFrom o) :
    Yields ts (Stmt.ComesFrom o) (classStatement d decorators) := by
  refine .bind .peek fun t among => .after (.expect "class") fun _ => .after .identifier fun name => ?_
  have body : ∀ {bases keywords} (line : Nat), (∀ e ∈ bases, Expr.ComesFrom o e) →
      (∀ k ∈ keywords, (Node.keyword k).ComesFrom o) → Yields ts (Stmt.ComesFrom o) (do
        let body ← Script.blockOf d "class definition" line
        return .class t.pos name bases keywords body decorators) := by
    intro bases keywords line fits named
    refine .bind (blockOf deeper known _ _) fun body inside => .pure (.stmt rfl (o.placed known t among) ?_)
    simp
    exact ⟨fits, named, inside, above⟩
  refine .after (.isNext "(") fun _ => .ite ?_ ?_
  · exact .bind (arguments deeper known false) fun read fits => body _ fits.1 fits.2
  · have bare : Yields ts (fun read : List Expr × List Keyword => (∀ e ∈ read.1, e.ComesFrom o) ∧
        ∀ k ∈ read.2, (Node.keyword k).ComesFrom o) (Pure.pure ([], [])) :=
      .pure ⟨List.forall_mem_nil _, List.forall_mem_nil _⟩
    exact .bind bare fun read fits => body _ fits.1 fits.2

theorem decorated : Yields ts (Stmt.ComesFrom o) (decorated d) := by
  refine .bind (.fold (fun done => ∀ e ∈ done, Expr.ComesFrom o e) nofun fun done fits => ?_)
    fun reversed fits => ?_
  · refine .after (.accept "@") fun _ => .ite (.bind (namedExpression deeper known) fun e fit => ?_) .nothing
    exact .after (.expectKind .newline) fun _ => .something (List.forall_mem_cons.mpr ⟨fit, fits⟩)
  · have above : ∀ e ∈ reversed.reverse, e.ComesFrom o := fun e member => fits e (List.mem_reverse.mp member)
    refine .bind .peek fun t among => .ite (classStatement deeper known above) ?_
    have place := o.placed known t among
    refine .ite (functionStatement deeper known place _ above) (.ite ?_ .mismatch)
    exact .after .advance fun _ => functionStatement deeper known place _ above

theorem matchCase : Yields ts (fun c => (Node.matchCase c).ComesFrom o) (matchCase d) := by
  have whole : ∀ {p guard} (line : Nat), Pattern.ComesFrom o p → (∀ e ∈ guard, Expr.ComesFrom o e) →
      Yields ts (fun c => (Node.matchCase c).ComesFrom o) (do
        return .mk p guard (← Script.blockAfter d "case" line)) := fun _ fit tested =>
    .bind (blockAfter deeper known _ _) fun body inside => .pure (.matchCase fit tested inside)
  refine .after .peek fun t => .otherwise (.after .advance fun _ => ?_)
  refine .bind (casePattern deeper known) fun p fit => .after (.accept "if") fun _ => .ite ?_ ?_
  · exact .bind (.optional (namedExpression deeper known)) fun guard tested => whole _ fit tested
  · exact .bind .nothing fun guard tested => whole _ fit tested

theorem matchStatement : Yields ts (Stmt.ComesFrom o) (matchStatement d) := by
  have one := matchCase deeper known
  have behind : ∀ t ∈ ts.list, ∀ subject, Expr.ComesFrom o subject → Yields ts (Stmt.ComesFrom o) (do
      Read.expect ":"
      let _ ← Read.expectKind .newline
      if (← Read.peek).kind != .indent then
        Read.indentationFault s!"expected an indented block after 'match' statement on line {t.line}"
      Read.advance
      let reversed ← Read.fold [← Script.matchCase d] fun done => do
        if (← Read.peek).isSoft "case" then return some ((← Script.matchCase d) :: done)
        return none
      let _ ← Read.expectKind .dedent
      return .match t.pos subject reversed.reverse) := by
    intro t among subject fit
    have cases : Yields ts (Stmt.ComesFrom o) (do
        Read.advance
        let reversed ← Read.fold [← Script.matchCase d] fun done => do
          if (← Read.peek).isSoft "case" then return some ((← Script.matchCase d) :: done)
          return none
        let _ ← Read.expectKind .dedent
        return .match t.pos subject reversed.reverse) := by
      refine .after .advance fun _ => .bind one fun first fine => ?_
      refine .bind (.collect (fun c => (Node.matchCase c).ComesFrom o) fine fun done fits =>
        .after .peek fun _ => .ite (.cons one fits) .nothing) fun reversed fits => ?_
      refine .after (.expectKind .dedent) fun _ => .pure (.stmt rfl (o.placed known t among) ?_)
      simp [fit]
      exact fits
    refine .after (.expect ":") fun _ => .after (.expectKind .newline) fun _ => .after .peek fun next => ?_
    exact .ite (.after (fun _ => .indentationFault _) fun _ => cases) cases
  refine .bind .peek fun t among => .otherwise (.after .advance fun _ => .bind (here known) fun pos place => ?_)
  refine .bind (starNamedExpression deeper known) fun first fit => .after (.isNext ",") fun _ => .ite ?_ ?_
  · refine .bind (.commaRest _ (starNamedExpression deeper known) (by simp [fit])) fun read fits => ?_
    refine .bind (.pure ?_) fun subject fit => behind t among subject fit
    exact .expr place (by simpa using fits)
  · split
    · exact .stop _
    · exact .bind (.pure fit) fun subject fit => behind t among subject fit

theorem statement : Yields ts (fun body => ∀ s ∈ body, Stmt.ComesFrom o s) (statement d) := by
  have single : ∀ {rule : Read Stmt}, Yields ts (Stmt.ComesFrom o) rule →
      Yields ts (fun body => ∀ s ∈ body, Stmt.ComesFrom o s) (do return [← rule]) := fun yields =>
    .bind yields fun s fit => .pure (List.forall_mem_singleton.mpr fit)
  have simple := simpleStatements deeper known
  refine .bind .peek fun t among => ?_
  have place := o.placed known t among
  refine .ite ?keyword (.ite (single (decorated deeper known)) (.ite ?soft simple))
  case keyword =>
    split
    · exact single (ifRest deeper known _ _)
    · exact single (whileStatement deeper known)
    · exact single (forStatement deeper known place _)
    · exact single (withStatement deeper known place _)
    · exact single (tryStatement deeper known)
    · exact single (functionStatement deeper known place _ nofun)
    · exact single (classStatement deeper known nofun)
    · refine .after .advance fun _ => .after .peek fun next => ?_
      refine .ite (single (functionStatement deeper known place _ nofun)) ?_
      refine .ite (single (forStatement deeper known place _)) ?_
      exact .ite (single (withStatement deeper known place _)) .mismatch
    · exact simple
  case soft =>
    refine .bind (.attempt (matchStatement deeper known)) fun found fits => ?_
    cases found with
    | none => exact simple
    | some s => exact .pure (List.forall_mem_singleton.mpr (fits s rfl))

theorem statements : Yields ts (fun body => ∀ s ∈ body, Stmt.ComesFrom o s) (statements d) := by
  refine .bind (.fold (fun blocks => ∀ body ∈ blocks, ∀ s ∈ body, Stmt.ComesFrom o s) nofun
    fun done fits => .after .peek fun t => .ite .nothing ?_) fun blocks fits => .pure ?_
  · exact .cons (statement deeper known) fits
  · intro s member
    obtain ⟨body, among, here⟩ := List.mem_flatten.mp member
    exact fits body (List.mem_reverse.mp among) s here

theorem block : Yields ts (fun body => ∀ s ∈ body, Stmt.ComesFrom o s) (block d) := by
  refine .after .peek fun t => .ite ?_ (simpleStatements deeper known)
  refine .after .advance fun _ => .after (.expectKind .indent) fun _ => ?_
  exact .bind (statements deeper known) fun body fits => .after (.expectKind .dedent) fun _ => .pure fits

end

end Yields

theorem rules_comesFrom (o : Origin) (n : Nat) : (rules n).ComesFrom o := by
  induction n with
  | zero =>
    exact ⟨fun _ => .throw _, fun _ => .throw _, fun _ => .throw _, fun _ => .throw _, fun _ => .throw _⟩
  | succ n ih => exact ⟨.expression ih, .inversion ih, .factor ih, .pattern ih, .block ih⟩

/-- A script is read up to the end of its tokens, and all nodes of its tree come from them. -/
theorem moduleRule_comesFrom (o : Origin) {ts : Tokens} (known : o.tokens ts) {m : Module} {c : Cursor}
    (read : moduleRule ⟨ts, 0, 0⟩ = .ok m c) :
    (∃ t ∈ ts.list, t.kind = .finish) ∧ ∀ n ∈ walk m.nodes, n.ComesFrom o := by
  have whole : Yields ts (fun m : Module => (∃ t ∈ ts.list, t.kind = .finish) ∧ ∀ s ∈ m.body, s.ComesFrom o)
      moduleRule :=
    .bind (.statements (rules_comesFrom o _) known) fun body fits => .bind (.expectKind .finish) fun t found =>
      .pure ⟨⟨t, found⟩, fits⟩
  obtain ⟨-, finish, fits⟩ := whole _ m c rfl read
  refine ⟨finish, Node.ComesFrom.of_mem_walk fun r among => ?_⟩
  obtain ⟨s, body, rfl⟩ := List.mem_map.mp among
  exact fits s body

def Origin.any : Origin where
  place _ := True
  name _ := True
  tokens _ := True
  joined _ _ := trivial
  placed _ _ _ := trivial
  named _ _ _ _ := trivial
  inner _ _ _ _ _ _ _ := trivial

theorem finish_of_moduleRule {ts : Tokens} {m : Module} {c : Cursor} (read : moduleRule ⟨ts, 0, 0⟩ = .ok m c) :
    ∃ t ∈ ts.list, t.kind = .finish := (moduleRule_comesFrom .any trivial read).1

theorem Module.comesFrom_of_parse (o : Origin) {text : List Char} {inChars : Bool} {tree : Module}
    (known : o.tokens (tokenize text)) (parsed : Module.parse text inChars = .ok tree) :
    ∀ n ∈ walk tree.nodes, n.ComesFrom o := by
  unfold Module.parse at parsed
  split at parsed
  · exact nomatch parsed
  · dsimp only at parsed
    split at parsed
    · rename_i m c read
      split at parsed
      · exact nomatch parsed
      · cases parsed
        exact (moduleRule_comesFrom o known read).2
    · exact nomatch parsed

end PluginBuild.Script

namespace PluginBuild

open Script

theorem SourceUnit.decoded_of_tree {codec? : String → Option Codec} {path : Path} {isScript : Bool}
    {bytes : Text.Bytes} {unit : SourceUnit}
    (made : SourceUnit.ofBytes codec? path isScript bytes = .ok unit) {tree : Module}
    (parsed : unit.tree = .ok tree) :
    ∃ source, SourceText.decode codec? bytes = .ok source ∧ unit.text = source.shown ∧
      Module.parse source.parsed source.isMarked = .ok tree := by
  unfold SourceUnit.ofBytes at made
  split at made
  · exact nomatch made
  · rename_i source decoded
    split at made
    · exact nomatch made
    · rename_i read ended
      cases made
      refine ⟨source, decoded, rfl, ?_⟩
      unfold SourceText.tree at ended
      split at ended
      · rename_i m parse
        cases ended
        cases parsed
        exact parse
      · cases ended
        exact nomatch parsed
      · exact nomatch ended

end PluginBuild
