import PluginBuild.Proofs.Script.Statements

/-!
Keywords in front of an equals sign. No statement reads them: what a keyword begins either needs
something that an equals sign does not begin, or is complete before it, or is no target.
-/

namespace PluginBuild.Script

open Read

namespace Reads

variable {k : Stops} {n : Nat} {d : Deeper} {t u v : Token} {ts : List Token}

def compoundWords : List String := ["if", "while", "for", "with", "try", "def", "class", "async"]

def operandStatements : List String := ["import", "from", "del", "assert", "global", "nonlocal"]

def completeWords : List String := ["pass", "break", "continue", "return", "raise", "yield"]

def operandWords : List String := ["False", "None", "True", "await", "lambda", "not"]

def innerWords : List String :=
  ["and", "as", "elif", "else", "except", "finally", "in", "is", "or"]

theorem keyword_cases : ∀ word ∈ keywords, word ∈ compoundWords ∨ word ∈ completeWords ∨
    word ∈ operandStatements ∨ word ∈ operandWords ∨ word ∈ innerWords := by
  decide

theorem blockOf_fails {owner : String} {line : Nat} (equals : u.IsMark "=") :
    Fails k (Script.blockOf d owner line) (u :: ts) :=
  .first (.expect (equals.isNot (by decide)))

theorem compound_fails {word : String} (keyword : t.IsKeyword word) (compound : word ∈ compoundWords)
    (equals : u.IsMark "=") : Fails k (statement (rules (n + 2))) (t :: u :: v :: ts) := by
  have stray := isStray_of_isMark equals
  have noName := equals.kind_ne_name
  refine .andThen peek (.ite_pos keyword.kind ?_)
  rw [keyword.text]
  simp only [compoundWords, List.mem_cons, List.not_mem_nil, or_false] at compound
  rcases compound with rfl | rfl | rfl | rfl | rfl | rfl | rfl | rfl
  -- Conditions, a target and a context manager are operands.
  · exact .first (.andThen peek (.andThen (expect keyword.is) (.first (namedExpression_fails stray))))
  · exact .first (.andThen peek (.andThen (expect keyword.is) (.first (namedExpression_fails stray))))
  · have target : Fails k (rules (n + 2) .factor) (u :: v :: ts) := factor_fails stray
    refine .first (.andThen peek (.andThen (expect keyword.is) (.first (.andThen here (.first (.first
      (.andThen here (.andThen (skip (equals.isNot (by decide))) (.first target)))))))))
  · have manager : Fails k (rules (n + 2) .expression) (u :: v :: ts) := expression_fails stray
    have noBracket : u.is "(" = false := equals.isNot (by decide)
    refine .first (.andThen peek (.andThen (expect keyword.is) (.first (.andThen (isNext "(") ?_))))
    rw [noBracket]
    exact .first (.first manager)
  -- The others go on with a colon, a name, or the keyword of such a statement.
  · exact .first (.andThen peek (.andThen (expect keyword.is) (.first (blockOf_fails equals))))
  · exact .first (.andThen peek (.andThen (expect keyword.is) (.first (.identifier noName))))
  · exact .first (.andThen peek (.andThen (expect keyword.is) (.first (.identifier noName))))
  · refine .andThen advance (.andThen peek ?_)
    rw [equals.isNot (by decide), equals.isNot (by decide), equals.isNot (by decide)]
    exact .mismatch

theorem statement_fails {word : String} (keyword : t.IsKeyword word) (simple : word ∉ compoundWords)
    (fails : Fails k (Script.simpleStatements d) (t :: ts)) : Fails k (statement d) (t :: ts) := by
  refine .andThen peek (.ite_pos keyword.kind ?_)
  rw [keyword.text]
  split <;> first | exact fails | exact absurd (by decide) simple

theorem simpleStatements_fails {word : String} (keyword : t.IsKeyword word)
    (other : word ∉ completeWords ++ operandStatements)
    (fails : Fails k (expressionStatement d) (t :: ts)) :
    Fails k (Script.simpleStatements d) (t :: ts) := by
  refine .first (.andThen peek (.ite_pos keyword.kind ?_))
  rw [keyword.text]
  split <;> first | exact fails | exact absurd (by decide) other

theorem simpleStatements_incomplete {s : Stmt} (equals : u.IsMark "=")
    (reads : Reads k (simpleStatement d) (t :: u :: ts) True s (u :: ts)) :
    Fails k (Script.simpleStatements d) (t :: u :: ts) := by
  have noNewline : u.kind ≠ .newline := by
    rw [equals.kind]
    decide
  have noMore : u.is ";" = false := equals.isNot (by decide)
  exact .andThen reads (.andThen (fold (.stop (andThen (skip noMore) (pure none))))
    (.first (.expectKind noNewline)))

theorem complete_fails {word : String} (keyword : t.IsKeyword word) (complete : word ∈ completeWords)
    (equals : u.IsMark "=") : Fails k (Script.simpleStatements d) (t :: u :: ts) := by
  have noExpr : u.startsExpr = false := by
    rw [Token.startsExpr, equals.kind, equals.text]
    decide
  have noStarred : u.startsStarred = false := by
    rw [Token.startsStarred, noExpr, equals.isNot (by decide)]
    rfl
  simp only [completeWords, List.mem_cons, List.not_mem_nil, or_false] at complete
  rcases complete with rfl | rfl | rfl | rfl | rfl | rfl
  · refine simpleStatements_incomplete (s := .pass t.pos) equals (andThen peek (ite_pos keyword.kind ?_))
    rw [keyword.text]
    exact andThen advance (pure _)
  · refine simpleStatements_incomplete (s := .break t.pos) equals (andThen peek (ite_pos keyword.kind ?_))
    rw [keyword.text]
    exact andThen advance (pure _)
  · refine simpleStatements_incomplete (s := .continue t.pos) equals (andThen peek (ite_pos keyword.kind ?_))
    rw [keyword.text]
    exact andThen advance (pure _)
  · refine simpleStatements_incomplete (s := .return t.pos none) equals (andThen peek (ite_pos keyword.kind ?_))
    rw [keyword.text]
    exact andThen here (andThen (expect keyword.is) (andThen peek
      (ite_neg (by simp [noStarred]) (pure _))))
  · refine simpleStatements_incomplete (s := .raise t.pos none none) equals (andThen peek (ite_pos keyword.kind ?_))
    rw [keyword.text]
    exact andThen here (andThen (expect keyword.is) (andThen peek
      (ite_pos (by simp [noExpr]) (pure _))))
  · refine simpleStatements_incomplete (s := .expr t.pos (.yield t.pos none)) equals
      (andThen peek (ite_pos keyword.kind ?_))
    rw [keyword.text]
    have yields : Reads k (yieldExpression d) (t :: u :: ts) True (.yield t.pos none) (u :: ts) :=
      andThen here (andThen (expect keyword.is) (andThen (skip (equals.isNot (by decide)))
        (andThen peek (ite_neg (by simp [noStarred]) (pure _)))))
    exact andThen peek (ite_pos keyword.is (andThen yields (pure _)))

theorem operand_fails {word : String} (keyword : t.IsKeyword word) (simple : word ∈ operandStatements)
    (equals : u.IsMark "=") :
    Fails k (simpleStatement (rules (n + 2))) (t :: u :: v :: ts) := by
  have stray := isStray_of_isMark equals
  have noName := equals.kind_ne_name
  have noModule : Fails k moduleName (u :: v :: ts) := .first (.identifier noName)
  have noNames : Fails k names (u :: v :: ts) := .first (.identifier noName)
  have noDots : Reads k leadingDots (u :: v :: ts) True 0 (u :: v :: ts) :=
    fold (.stop (andThen (skip (equals.isNot (by decide)))
      (andThen (skip (equals.isNot (by decide))) (pure none))))
  have noOperand : Fails k (rules (n + 2) .factor) (u :: v :: ts) := factor_fails stray
  refine .andThen peek (.ite_pos keyword.kind ?_)
  rw [keyword.text]
  simp only [operandStatements, List.mem_cons, List.not_mem_nil, or_false] at simple
  rcases simple with rfl | rfl | rfl | rfl | rfl | rfl
  · exact .andThen here (.andThen (expect keyword.is) (.first (.andThen here (.first noModule))))
  · refine .andThen here (.andThen (expect keyword.is) (.andThen noDots ?_))
    exact .andThen (andThen (pure false) (pure false)) (.first (.map noModule))
  · exact .andThen here (.andThen (expect keyword.is) (.first (.first (.first noOperand))))
  · exact .andThen here (.andThen (expect keyword.is) (.first (expression_fails stray)))
  · exact .andThen advance (.first noNames)
  · exact .andThen advance (.first noNames)

theorem expressionStatement_fails (noYield : t.is "yield" = false) (noStar : t.is "*" = false)
    (fails : Fails k (d .expression) (t :: ts)) : Fails k (expressionStatement d) (t :: ts) := by
  refine .andThen peek (.ite_neg (by simp [noYield]) (.first (.andThen here (.first (.first ?_)))))
  exact .andThen here (.andThen (skip noStar) fails)

theorem expression_of_factor_fails (noLambda : t.is "lambda" = false) (noNot : t.is "not" = false)
    (fails : Fails k (d .factor) (t :: ts)) : Fails k (Script.expression d) (t :: ts) :=
  .of_reads (expression (of_fails fails id (.constant ⟨0, 0⟩ .none none) [Lexer.newlineMark 0 0])
    noLambda noNot rfl)

theorem constant_fails {word : String} {c : Constant} (keyword : t.IsKeyword word)
    (constant : [("True", Constant.bool true), ("False", .bool false), ("None", .none),
      ("...", .ellipsis)].lookup word = some c) (fixed : c.fixedName? = some word)
    (others : ∀ spelling ∈ "(" :: "[" :: "\x7b" :: "yield" :: openers, word ≠ spelling)
    (equals : u.IsMark "=") :
    Fails .any (expressionStatement (rules (n + 2))) (t :: u :: v :: ts) := by
  have isNot (spelling : String) (other : spelling ∈ "(" :: "[" :: "\x7b" :: "yield" :: openers) :
      t.is spelling = false := keyword.isNot (others spelling other)
  have plain : t.isPlain = true :=
    List.all_eq_true.mpr fun spelling opens => by simp [isNot spelling (by simp [opens])]
  have atom : Reads .any (atom (rules n)) (t :: u :: v :: ts) True (.constant t.pos c none)
      (u :: v :: ts) := by
    refine andThen peek ?_
    rw [keyword.kind, keyword.text]
    refine ite_neg (by simp [isNot]) (ite_neg (by simp [isNot]) (ite_neg (by simp [isNot]) ?_))
    simp only [constant]
    exact andThen advance (pure _)
  have value : Reads .any (rules (n + 2) .expression) (t :: u :: v :: ts) True
      (.constant t.pos c none) (u :: v :: ts) := by
    refine expression_of_primary ?_ plain (equals.endsExpr (by decide))
    exact andThen here (andThen atom (fold (.stop (trailer_none (equals.endsExpr (by decide))))))
  refine .andThen peek (.ite_neg (by simp [isNot]) (.andThen (starExpressions value plain
    (equals.isNot (by decide))) (.andThen peek (.ite_pos equals.is (.first (.fold
      (.andThen (accept equals.is) (.first ?_))))))))
  rw [assignedTarget, fixed]
  exact .throw trivial

theorem operandWord_fails {word : String} (keyword : t.IsKeyword word) (operand : word ∈ operandWords)
    (equals : u.IsMark "=") :
    Fails .any (expressionStatement (rules (n + 3))) (t :: u :: v :: ts) := by
  have stray := isStray_of_isMark equals
  simp only [operandWords, List.mem_cons, List.not_mem_nil, or_false] at operand
  rcases operand with rfl | rfl | rfl | rfl | rfl | rfl
  -- Constants are read, but not as targets; the rest is in want of an operand or a colon.
  · exact constant_fails keyword rfl rfl (by decide) equals
  · exact constant_fails keyword rfl rfl (by decide) equals
  · exact constant_fails keyword rfl rfl (by decide) equals
  · have power : Fails .any (Script.power (rules (n + 1))) (t :: u :: v :: ts) :=
      .andThen here (.andThen (accept keyword.is) (.first (primary_fails stray)))
    have factor : Fails .any (rules (n + 2) .factor) (t :: u :: v :: ts) := by
      refine .andThen here (.andThen (skip (keyword.isNot (by decide))) ?_)
      refine .andThen (skip (keyword.isNot (by decide))) ?_
      exact .andThen (skip (keyword.isNot (by decide))) power
    exact expressionStatement_fails (keyword.isNot (by decide)) (keyword.isNot (by decide))
      (expression_of_factor_fails (keyword.isNot (by decide)) (keyword.isNot (by decide)) factor)
  · have lambda : Fails .any (lambdaExpression (rules (n + 2))) (t :: u :: v :: ts) := by
      refine .andThen here (.andThen (expect keyword.is) ?_)
      have noName := equals.kind_ne_name
      have noParams : Reads .any (Script.params (rules (n + 2)) false) (u :: v :: ts) True
          ParamsRead.none.toParams (u :: v :: ts) :=
        andThen peek (ite_pos (by simp [noName, equals.isNot]) (pure _))
      exact .andThen noParams (.first (.expect (equals.isNot (by decide))))
    refine expressionStatement_fails (keyword.isNot (by decide)) (keyword.isNot (by decide)) ?_
    exact .andThen (isNext "lambda") (.ite_pos keyword.is lambda)
  · have negation : Fails .any (Script.inversion (rules (n + 2))) (t :: u :: v :: ts) :=
      .andThen here (.andThen (accept keyword.is) (.first (inversion_fails stray)))
    refine expressionStatement_fails (keyword.isNot (by decide)) (keyword.isNot (by decide)) ?_
    refine .andThen (isNext "lambda") (.ite_neg (by simp [keyword.isNot]) ?_)
    exact .andThen here (.first (.andThen here (.first (.andThen here (.first negation)))))

theorem innerWord_fails {word : String} (keyword : t.IsKeyword word) (inner : word ∈ innerWords) :
    Fails k (expressionStatement (rules (n + 2))) (t :: ts) := by
  have others : ∀ word ∈ innerWords, ∀ spelling ∈ "(" :: "[" :: "\x7b" :: "True" :: "False" :: "None" ::
      "..." :: "yield" :: openers, word ≠ spelling := by
    decide
  have isNot (spelling : String) (opens : spelling ∈ "yield" :: openers) : t.is spelling = false :=
    keyword.isNot (others word inner spelling (by simp_all))
  have stray : t.IsStray := by
    refine ⟨.inl keyword.kind, ?_, List.all_eq_true.mpr fun spelling opens => ?_⟩
    · simp [keyword.text, others word inner]
    · simp [isNot spelling (by simp [opens])]
  exact expressionStatement_fails (isNot "yield" (by decide)) (isNot "*" (by decide))
    (expression_fails stray)

theorem statement_keyword (kind : t.kind = .keyword) (known : isKeyword t.text = true)
    (equals : u.IsMark "=") : Fails .any (statement (rules (n + 3))) (t :: u :: v :: ts) := by
  have keyword : t.IsKeyword t.text := ⟨kind, rfl⟩
  have simple : ∀ word ∈ completeWords ++ operandStatements ++ operandWords ++ innerWords,
      word ∉ compoundWords := by
    decide
  have opening : ∀ word ∈ operandWords ++ innerWords, word ∉ completeWords ++ operandStatements := by
    decide
  rcases keyword_cases t.text (List.contains_iff_mem.mp known) with compound | complete | needy |
    operand | inner
  · exact compound_fails keyword compound equals
  · exact statement_fails keyword (simple _ (by simp [complete])) (complete_fails keyword complete equals)
  · refine statement_fails keyword (simple _ (by simp [needy])) (.first ?_)
    exact operand_fails keyword needy equals
  · refine statement_fails keyword (simple _ (by simp [operand])) ?_
    exact simpleStatements_fails keyword (opening _ (by simp [operand]))
      (operandWord_fails keyword operand equals)
  · refine statement_fails keyword (simple _ (by simp [inner])) ?_
    exact simpleStatements_fails keyword (opening _ (by simp [inner])) (innerWord_fails keyword inner)

end Reads

end PluginBuild.Script
