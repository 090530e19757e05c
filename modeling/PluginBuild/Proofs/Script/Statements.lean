import PluginBuild.Proofs.Script.Operands

/-!
Statements by their tokens: an import, an assignment to a name, an expression, and definitions with
their blocks. A word that is a keyword makes no target of an assignment.
-/

namespace PluginBuild.Script

open Read

structure Token.IsKeyword (t : Token) (word : String) : Prop where
  kind : t.kind = .keyword
  text : t.text = word

namespace Token.IsKeyword

variable {t : Token} {word other : String}

theorem is (keyword : t.IsKeyword word) : t.is word = true := by
  simp [Token.is, keyword.kind, keyword.text]

theorem isNot (keyword : t.IsKeyword word) (differs : word ≠ other) : t.is other = false := by
  simp [Token.is, keyword.text, differs]

end Token.IsKeyword

namespace Reads

variable {k : Stops} {p q : Prop} {d : Deeper} {t u : Token} {ts us left : List Token} {s : Stmt}
  {e : Expr}

theorem simpleStatements {nl : Token} (newline : nl.kind = .newline)
    (reads : Reads k (simpleStatement d) ts p s (nl :: left)) :
    Reads k (simpleStatements d) ts p [s] left := by
  have noMore := Token.isNot_of_newline newline ";"
  refine before reads (andThen (fold (.stop (andThen (skip noMore) (pure none)))) ?_)
  exact andThen ((expectKind .newline).congr (iff_of_true newline trivial)) (pure _)

theorem importStatement {word bound given nl : Token} {line column : Nat} {parts : List String}
    (imports : word.IsKeyword "import") (binds : bound.IsKeyword "as") (name : given.kind = .name)
    (newline : nl.kind = .newline) :
    Reads k importStatement
      (word :: t :: (Lexer.lineTokens line column (Lexer.furtherParts parts) ++
        bound :: given :: nl :: left))
      (t.kind = .name ∧ ∀ part ∈ parts, isKeyword part = false)
      (.importModules word.pos [⟨t.pos,
        parts.foldl (fun name part => name ++ "." ++ identifierOf part) (identifierOf t.text),
        some (identifierOf given.text)⟩]) (nl :: left) := by
  have noComma := Token.isNot_of_newline newline ","
  have named : Reads k moduleName (t :: (Lexer.lineTokens line column (Lexer.furtherParts parts) ++
      bound :: given :: nl :: left)) (t.kind = .name ∧ ∀ part ∈ parts, isKeyword part = false)
      (parts.foldl (fun name part => name ++ "." ++ identifierOf part) (identifierOf t.text))
      (bound :: given :: nl :: left) :=
    bind identifier fun _ => fold (.nextParts (binds.isNot (by decide)))
  have boundTo : Reads k boundName (bound :: given :: nl :: left) True
      (some (identifierOf given.text)) (nl :: left) :=
    andThen (accept binds.is) (andThen (identifier.congr (iff_of_true name trivial)) (pure _))
  refine andThen here (andThen (expect imports.is) ?_)
  refine before (andThen here (before named (andThen boundTo (pure _)))) ?_
  exact andThen (fold (.stop (andThen (skip noComma) (pure none)))) (pure _)

theorem statement_import (imports : t.IsKeyword "import") {nl : Token} (newline : nl.kind = .newline)
    (reads : Reads k Script.importStatement (t :: ts) p s (nl :: left)) :
    Reads k (statement d) (t :: ts) p [s] left := by
  have simple : Reads k (simpleStatement d) (t :: ts) p s (nl :: left) := by
    refine andThen peek ?_
    rw [if_pos imports.kind, imports.text]
    exact reads
  refine andThen peek ?_
  rw [if_pos imports.kind, imports.text]
  exact simpleStatements newline simple

theorem expressionStatement_expr (name : t.kind = .name) (newline : u.kind = .newline)
    (reads : Reads k (d .expression) (t :: ts) p e (u :: us)) :
    Reads k (expressionStatement d) (t :: ts) p (.expr t.pos e) (u :: us) := by
  have other := Token.isNot_of_newline newline
  have noOperator : augmentedOperator? u = none := by
    rw [augmentedOperator?, newline]
    rfl
  refine andThen peek ?_
  rw [Token.isNot_of_name name]
  refine before (starExpressions reads (Token.isPlain_of_name name) (other ",")) (andThen peek ?_)
  rw [other "=", other ":", noOperator]
  exact pure _

theorem starExpressions_name {n : Nat} (name : t.kind = .name) (ends : u.endsExpr = true)
    (noComma : u.is "," = false) :
    Reads k (Script.starExpressions (rules (n + 2))) (t :: u :: us) True
      (.name t.pos (identifierOf t.text) .load) (u :: us) := by
  exact starExpressions (expression_name name ends) (Token.isPlain_of_name name) noComma

theorem expressionStatement_assign {n : Nat} {equals value nl : Token} (name : t.kind = .name)
    (assigns : equals.IsMark "=") (named : value.kind = .name) (newline : nl.kind = .newline) :
    Reads k (expressionStatement (rules (n + 2))) (t :: equals :: value :: nl :: left) True
      (.assign t.pos [.name t.pos (identifierOf t.text) .store]
        (.name value.pos (identifierOf value.text) .load)) (nl :: left) := by
  have other := Token.isNot_of_newline newline
  have ends : nl.endsExpr = true := by
    rw [Token.endsExpr, newline]
    rfl
  have assigned : Reads k (assignedValue (rules (n + 2))) (value :: nl :: left) True
      (.name value.pos (identifierOf value.text) .load) (nl :: left) := by
    refine andThen (isNext "yield") (ite_neg ?_ (starExpressions_name named ends (other ",")))
    rw [Token.isNot_of_name named]
    exact Bool.false_ne_true
  refine andThen peek (ite_neg ?_ (andThen (starExpressions_name name (assigns.endsExpr (by decide))
    (assigns.isNot (by decide))) (andThen peek (ite_pos assigns.is (andThen (fold (.andThen
      (andThen (accept assigns.is) (andThen (pure _) (andThen assigned (pure _)))) (by simp)
      (.stop ?_))) (pure _))))))
  · rw [Token.isNot_of_name name]
    exact Bool.false_ne_true
  · exact andThen (skip (other "=")) (pure none)

theorem simpleStatement_name (name : t.kind = .name)
    (reads : Reads k (expressionStatement d) (t :: ts) p s left) :
    Reads k (simpleStatement d) (t :: ts) p s left := by
  have noKeyword : t.kind ≠ .keyword := by
    rw [name]
    decide
  exact andThen peek (ite_neg noKeyword reads)

theorem statement_name {nl : Token} (name : t.kind = .name) (other : t.text ≠ "match")
    (newline : nl.kind = .newline)
    (reads : Reads k (expressionStatement d) (t :: ts) p s (nl :: left)) :
    Reads k (statement d) (t :: ts) p [s] left := by
  have noKeyword : t.kind ≠ .keyword := by
    rw [name]
    decide
  refine andThen peek (ite_neg noKeyword (ite_neg ?_ (ite_neg ?_
    (simpleStatements newline (simpleStatement_name name reads)))))
  · rw [Token.isNot_of_name name]
    exact Bool.false_ne_true
  · simp [Token.isSoft, other]

theorem namedExpression_fails {n : Nat} (stray : t.IsStray) :
    Fails k (Script.namedExpression (rules (n + 2))) (t :: u :: us) := by
  have noName : t.kind ≠ .name := by
    rcases stray.kind with kind | kind <;> rw [kind] <;> decide
  exact .andThen (isNameBefore (.inl noName)) (expression_fails stray)

theorem isStray_of_isMark (mark : t.IsMark "=") : t.IsStray :=
  ⟨.inr mark.kind, by rw [mark.text]; decide, by simp [Token.isPlain, Token.is, mark.text, openers]⟩

/-- The assignment of a name to a name. That the target is the word of match statements does not
matter, since no subject follows it. -/
theorem statement_assign {n : Nat} {equals value nl : Token} (name : t.kind = .name)
    (assigns : equals.IsMark "=") (named : value.kind = .name) (newline : nl.kind = .newline) :
    Reads k (statement (rules (n + 2))) (t :: equals :: value :: nl :: left) True
      [.assign t.pos [.name t.pos (identifierOf t.text) .store]
        (.name value.pos (identifierOf value.text) .load)] left := by
  by_cases soft : t.text = "match"
  -- The match statement is tried first, and gives way.
  · have isSoft : t.isSoft "match" = true := by
      simp [Token.isSoft, name, soft]
    have noSubject : Fails .none (matchStatement (rules (n + 2)))
        (t :: equals :: value :: nl :: left) := by
      refine .andThen peek (.ite_neg (by simp [isSoft]) (.andThen advance (.andThen here ?_)))
      refine .first (.andThen here (.andThen (skip (assigns.isNot (by decide))) ?_))
      exact namedExpression_fails (isStray_of_isMark assigns)
    have noKeyword : t.kind ≠ .keyword := by
      rw [name]
      decide
    have noDecorator := Token.isNot_of_name name "@"
    refine andThen peek (ite_neg noKeyword (ite_neg (by simp [noDecorator]) (ite_pos isSoft ?_)))
    refine andThen (attempt noSubject) (simpleStatements newline ?_)
    exact simpleStatement_name name (expressionStatement_assign name assigns named newline)
  · exact statement_name name soft newline (expressionStatement_assign name assigns named newline)

end Reads

end PluginBuild.Script
