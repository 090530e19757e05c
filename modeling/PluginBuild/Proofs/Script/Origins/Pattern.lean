import PluginBuild.Script.Grammar.Pattern
import PluginBuild.Proofs.Script.Origins.Expr

/-!
Patterns and where their parts come from, rule by rule.
-/

namespace PluginBuild.Script

open Read

attribute [local simp] Node.children Node.fields Expr.fields Pattern.fields Field.children exprField exprsField

namespace Yields

variable {o : Origin} {d : Deeper} (deeper : d.ComesFrom o) {ts : Tokens} (known : o.tokens ts)

section
include known

theorem signedNumber : Yields ts (Expr.ComesFrom o) signedNumber := by
  refine .bind (here known) fun pos place => .after (.accept "-") fun _ => .ite ?_ (number known)
  exact .bind (number known) fun e fit => .pure (.expr place (by simp [fit]))

theorem patternNumber : Yields ts (Expr.ComesFrom o) patternNumber := by
  refine .bind (here known) fun pos place => .bind (signedNumber known) fun left fit => ?_
  refine .after (.isNext "+") fun _ => .ite ?plus (.after (.isNext "-") fun _ => .ite ?minus (.pure fit))
  case plus | minus =>
    refine .after .advance fun _ => .bind (number known) fun right fine => .ite (.pure ?_) .mismatch
    exact .expr place (by simp [fit, fine])

theorem dottedName : Yields ts (Expr.ComesFrom o) dottedName := by
  refine .bind (.expectKind .name) fun t ⟨among, _⟩ => ?_
  have place := o.placed known t among
  refine .fold _ (.expr place (by simp)) fun e fit => .after (.accept ".") fun _ => .ite ?_ .nothing
  exact .after .identifier fun _ => .something (.expr place (by simp [fit]))

theorem starPattern : Yields ts (Pattern.ComesFrom o) starPattern := by
  refine .bind (here known) fun pos place => .after (.expect "*") fun _ => .after .peek fun t => .ite ?_ ?_
  · exact .after .advance fun _ => .pure (.pattern place (by simp))
  · exact .after .captureName fun _ => .pure (.pattern place (by simp))

end

include deeper known

theorem sequenceElement : Yields ts (Pattern.ComesFrom o) (sequenceElement d) :=
  .after (.isNext "*") fun _ => .ite (starPattern known) (deeper.pattern known)

theorem parenthesizedPattern : Yields ts (Pattern.ComesFrom o) (parenthesizedPattern d) := by
  refine .bind (here known) fun pos place => .after (.expect "(") fun _ => .after (.accept ")") fun _ => ?_
  refine .ite (.pure (.pattern place (by simp))) ?_
  refine .bind (.commaList _ (sequenceElement deeper known)) fun read fits =>
    .after (.expect ")") fun _ => ?_
  obtain ⟨elements, trailing⟩ := read
  dsimp only at fits ⊢
  split
  · exact .mismatch
  · exact .pure (fits _ List.mem_cons_self)
  · exact .pure (.pattern place (by simpa using fits))

theorem bracketPattern : Yields ts (Pattern.ComesFrom o) (bracketPattern d) := by
  refine .bind (here known) fun pos place => .after (.expect "[") fun _ => .after (.accept "]") fun _ => ?_
  refine .ite (.pure (.pattern place (by simp))) ?_
  refine .bind (.commaList _ (sequenceElement deeper known)) fun read fits =>
    .after (.expect "]") fun _ => ?_
  exact .pure (.pattern place (by simpa using fits))

theorem mappingKey : Yields ts (Expr.ComesFrom o) (mappingKey d) := by
  refine .bind .peek fun t among => ?_
  split
  · exact strings deeper known
  · refine .bind (dottedName known) fun e fit => ?_
    split
    · exact .mismatch
    · exact .pure fit
  · dsimp only
    split
    · exact .after .advance fun _ => .pure (.expr (o.placed known t among) (by simp))
    · exact .mismatch
  · exact patternNumber known

theorem mappingPattern : Yields ts (Pattern.ComesFrom o) (mappingPattern d) := by
  let fine (done : List (Expr × Pattern) × Option String) : Prop :=
    ∀ e ∈ done.1, e.1.ComesFrom o ∧ e.2.ComesFrom o
  have entry : ∀ done, fine done → Yields ts fine (do
        if done.2.isSome then Read.mismatch
        if ← Read.accept "**" then return (done.1, some (← Script.captureName))
        let key ← Script.mappingKey d
        Read.expect ":"
        return ((key, ← d .pattern) :: done.1, none)) := by
    refine fun done fits => .otherwise (.after (.accept "**") fun _ => .ite ?_ ?_)
    · exact .after .captureName fun _ => .pure fits
    · refine .bind (mappingKey deeper known) fun key fit => .after (.expect ":") fun _ => ?_
      exact .bind (deeper.pattern known) fun p fine => .pure (List.forall_mem_cons.mpr ⟨⟨fit, fine⟩, fits⟩)
  refine .bind (here known) fun pos place => .after (.expect _) fun _ => .after (.accept _) fun _ => ?_
  refine .ite (.pure (.pattern place (by simp))) (.bind (entry ([], none) (List.forall_mem_nil _)) fun first fits => ?_)
  refine .bind (.fold (fun state => fine state.1) fits fun state fits => ?_) fun state fits => ?_
  · obtain ⟨done, ended⟩ := state
    exact .nextEntry fine fits (entry done fits)
  obtain ⟨⟨reversed, rest⟩, ended⟩ := state
  refine .after (.expect _) fun _ => .pure (.pattern place ?_)
  simp
  constructor
  · rintro _ e p member rfl
    exact (fits (e, p) member).1
  · rintro _ e p member rfl
    exact (fits (e, p) member).2

theorem classPattern {pos : Pos} {cls : Expr} (place : o.place pos) (fit : cls.ComesFrom o) :
    Yields ts (Pattern.ComesFrom o) (classPattern d pos cls) := by
  let fine (done : List Pattern × List (String × Pattern)) : Prop :=
    (∀ p ∈ done.1, p.ComesFrom o) ∧ ∀ p ∈ done.2, p.2.ComesFrom o
  have entry : ∀ done, fine done → Yields ts fine (do
        if ← Read.isNameBefore "=" then
          let name ← Read.identifier
          Read.advance
          return (done.1, (name, ← d .pattern) :: done.2)
        if !done.2.isEmpty then Read.mismatch
        return ((← d .pattern) :: done.1, [])) := by
    rintro done ⟨plain, named⟩
    refine .after (.isNameBefore "=") fun _ => .ite ?_ (.otherwise ?_)
    · refine .after .identifier fun _ => .after .advance fun _ => .bind (deeper.pattern known) fun p fine => ?_
      exact .pure ⟨plain, List.forall_mem_cons.mpr ⟨fine, named⟩⟩
    · refine .bind (deeper.pattern known) fun p fine => .pure ?_
      exact ⟨List.forall_mem_cons.mpr ⟨fine, plain⟩, List.forall_mem_nil _⟩
  refine .after (.expect "(") fun _ => .after (.accept ")") fun _ => ?_
  refine .ite (.pure (.pattern place (by simp [fit])))
    (.bind (entry ([], []) ⟨List.forall_mem_nil _, List.forall_mem_nil _⟩) fun first fits => ?_)
  refine .bind (.fold (fun state => fine state.1) fits fun state fits => ?_) fun state fits => ?_
  · obtain ⟨done, ended⟩ := state
    exact .nextEntry fine fits (entry done fits)
  obtain ⟨⟨patterns, named⟩, ended⟩ := state
  obtain ⟨plain, behind⟩ := fits
  refine .after (.expect _) fun _ => .pure (.pattern place ?_)
  simp
  refine ⟨fit, plain, ?_⟩
  rintro _ name p member rfl
  exact behind (name, p) member

theorem closedPattern : Yields ts (Pattern.ComesFrom o) (closedPattern d) := by
  refine .bind .peek fun t among => ?_
  have place := o.placed known t among
  split
  · exact .bind (patternNumber known) fun e fit => .pure (.pattern place (by simp [fit]))
  · exact .bind (strings deeper known) fun e fit => .pure (.pattern place (by simp [fit]))
  · refine .ite (.after .advance fun _ => .pure (.pattern place (by simp))) ?_
    refine .bind (dottedName known) fun name fit => .after (.isNext "(") fun _ => ?_
    refine .ite (classPattern deeper known place fit) (.after (.isNext "=") fun _ => .otherwise ?_)
    split
    · exact .pure (.pattern place (by simp))
    · exact .pure (.pattern place (by simp [fit]))
  · dsimp only
    split
    · exact .after .advance fun _ => .pure (.pattern place (by simp))
    · exact .mismatch
  · refine .ite (parenthesizedPattern deeper known) (.ite (bracketPattern deeper known) ?_)
    refine .ite (mappingPattern deeper known) (.ite ?_ .mismatch)
    exact .bind (patternNumber known) fun e fit => .pure (.pattern place (by simp [fit]))

theorem pattern : Yields ts (Pattern.ComesFrom o) (pattern d) := by
  have named : ∀ {pos p name}, o.place pos → Pattern.ComesFrom o p →
      (Pattern.capture pos (some p) name).ComesFrom o :=
    fun place fit => .pattern place (by simp [fit])
  refine .bind (here known) fun pos place => .bind (closedPattern deeper known) fun first fit => ?_
  refine .bind (.collect _ fit fun done fits => .after (.accept "|") fun _ => .ite ?_ .nothing)
    fun reversed fits => ?_
  · exact .cons (closedPattern deeper known) fits
  · split
    · have fit := fits _ List.mem_cons_self
      refine .after (.accept "as") fun _ => .ite ?_ (.pure fit)
      exact .after .captureName fun _ => .pure (named place fit)
    · have fit : (Pattern.alternatives pos reversed.reverse).ComesFrom o := .pattern place (by simpa using fits)
      refine .after (.accept "as") fun _ => .ite ?_ (.pure fit)
      exact .after .captureName fun _ => .pure (named place fit)

theorem casePattern : Yields ts (Pattern.ComesFrom o) (casePattern d) := by
  have element : Yields ts (Pattern.ComesFrom o) (do
      if ← Read.isNext "*" then Script.starPattern else Script.pattern d) :=
    .after (.isNext "*") fun _ => .ite (starPattern known) (pattern deeper known)
  refine .bind (here known) fun pos place => .bind (.commaList _ element) fun read fits => ?_
  obtain ⟨elements, trailing⟩ := read
  dsimp only
  split
  · exact .mismatch
  · exact .pure (fits _ List.mem_cons_self)
  · exact .pure (.pattern place (by simpa using fits))

end Yields

end PluginBuild.Script
