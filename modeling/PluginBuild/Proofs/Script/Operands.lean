import PluginBuild.Proofs.Script.Reading
import PluginBuild.Proofs.Script.Lines

/-!
Expressions that consist of one operand. Behind an operand that no operator follows, every level of the
grammar reads what the operand reads; and where no operand can begin, every level fails.
-/

namespace PluginBuild.Script

open Read

/-- The spellings that end an expression wherever one is read. -/
def closers : List String := [")", ",", "=", ":"]

def Token.endsExpr (t : Token) : Bool :=
  t.kind == .newline || (t.kind == .op && closers.contains t.text)

/-- The spellings that have a meaning of their own in front of an operand. -/
def openers : List String := ["lambda", "not", "await", "+", "-", "~", "*", "**"]

/-- Whether a token is none of the words and signs in front of an operand. -/
def Token.isPlain (t : Token) : Bool := openers.all fun spelling => !t.is spelling

theorem Token.endsExpr_cases {t : Token} (ends : t.endsExpr = true) :
    t.kind = .newline ∨ t.kind = .op ∧ closers.contains t.text = true := by
  simpa [Token.endsExpr] using ends

theorem Token.isNot_of_newline {t : Token} (newline : t.kind = .newline) (spelling : String) :
    t.is spelling = false := by
  rw [Token.is, newline]
  rfl

theorem Token.is_of_endsExpr {t : Token} {spelling : String} (ends : t.endsExpr = true)
    (other : closers.contains spelling = false) : t.is spelling = false := by
  rcases Token.endsExpr_cases ends with newline | ⟨op, closes⟩
  · exact Token.isNot_of_newline newline spelling
  · have differs : t.text ≠ spelling := by
      rintro rfl
      exact Bool.false_ne_true (other.symm.trans closes)
    rw [Token.is, beq_eq_false_iff_ne.mpr differs, Bool.and_false]

theorem Token.is_of_isPlain {t : Token} {spelling : String} (plain : t.isPlain = true)
    (opens : spelling ∈ openers) : t.is spelling = false := by
  have here := List.all_eq_true.mp plain spelling opens
  rwa [Bool.not_eq_true'] at here

structure Token.IsMark (t : Token) (spelling : String) : Prop where
  kind : t.kind = .op
  text : t.text = spelling

namespace Token.IsMark

variable {t : Token} {spelling other : String}

theorem is (mark : t.IsMark spelling) : t.is spelling = true := by
  simp [Token.is, mark.kind, mark.text]

theorem isNot (mark : t.IsMark spelling) (differs : spelling ≠ other) : t.is other = false := by
  simp [Token.is, mark.text, differs]

theorem endsExpr (mark : t.IsMark spelling) (closes : closers.contains spelling = true) :
    t.endsExpr = true := by
  rw [Token.endsExpr, mark.kind, mark.text, closes]
  rfl

theorem kind_ne_name (mark : t.IsMark spelling) : t.kind ≠ .name := by
  rw [mark.kind]
  decide

end Token.IsMark

theorem Token.isNot_of_name {t : Token} (name : t.kind = .name) (spelling : String) :
    t.is spelling = false := by
  rw [Token.is, name]
  rfl

theorem Token.isPlain_of_name {t : Token} (name : t.kind = .name) : t.isPlain = true := by
  simp [Token.isPlain, Token.isNot_of_name name]

namespace Reads

variable {k : Stops} {p : Prop} {e : Expr} {t u : Token} {ts us left : List Token} {n : Nat} {d : Deeper}

theorem leftAssoc {operators : List (String × BinaryOp)} {operand : Read Expr}
    (reads : Reads k operand (t :: ts) p e (u :: us)) (ends : u.endsExpr = true)
    (others : ∀ operator ∈ operators, closers.contains operator.1 = false) :
    Reads k (leftAssoc operators operand) (t :: ts) p e (u :: us) := by
  refine andThen here (before reads (fold (.stop ?_)))
  refine andThen peek ?_
  rcases Token.endsExpr_cases ends with newline | ⟨op, closes⟩
  · rw [newline]
    exact pure none
  · have unknown : operators.lookup u.text = none := by
      refine List.lookup_eq_none_iff.mpr fun operator member => ?_
      have differs : u.text ≠ operator.1 := by
        intro same
        rw [same, others operator member] at closes
        exact Bool.false_ne_true closes
      exact bne_iff_ne.mpr differs
    rw [op, unknown]
    exact pure none

theorem logical {word : String} {op : BoolOp} {operand : Read Expr}
    (reads : Reads k operand (t :: ts) p e (u :: us)) (ends : u.endsExpr = true)
    (other : closers.contains word = false) :
    Reads k (logical word op operand) (t :: ts) p e (u :: us) := by
  refine andThen here (before reads ?_)
  refine andThen (isNext word) ?_
  rw [Token.is_of_endsExpr ends other]
  exact pure e

theorem power (reads : Reads k (primary d) (t :: ts) p e (u :: us)) (plain : t.isPlain = true)
    (ends : u.endsExpr = true) : Reads k (power d) (t :: ts) p e (u :: us) := by
  have noAwait : t.is "await" = false := Token.is_of_isPlain plain (by decide)
  refine andThen here (andThen (skip noAwait) ?_)
  refine before reads ?_
  exact andThen (skip (Token.is_of_endsExpr ends (by decide))) (pure e)

theorem factor (reads : Reads k (primary d) (t :: ts) p e (u :: us)) (plain : t.isPlain = true)
    (ends : u.endsExpr = true) : Reads k (factor d) (t :: ts) p e (u :: us) := by
  have other (spelling : String) (opens : spelling ∈ openers) : t.is spelling = false :=
    Token.is_of_isPlain plain opens
  refine andThen here (andThen (skip (other "+" (by decide))) ?_)
  refine andThen (skip (other "-" (by decide))) (andThen (skip (other "~" (by decide))) ?_)
  exact power reads plain ends

theorem bitwiseOr (reads : Reads k (d .factor) (t :: ts) p e (u :: us)) (ends : u.endsExpr = true) :
    Reads k (bitwiseOr d) (t :: ts) p e (u :: us) := by
  refine leftAssoc (leftAssoc (leftAssoc (leftAssoc (leftAssoc (leftAssoc reads ?_ ?_) ?_ ?_) ?_ ?_)
    ?_ ?_) ?_ ?_) ?_ ?_
  all_goals first | exact ends | decide

theorem compareOperator?_none (ends : u.endsExpr = true) :
    Reads k compareOperator? (u :: us) True none (u :: us) := by
  refine andThen peek ?_
  rcases Token.endsExpr_cases ends with newline | ⟨op, closes⟩
  · rw [newline]
    exact pure none
  · have noNot : u.is "not" = false := Token.is_of_endsExpr ends (by decide)
    have noIs : u.is "is" = false := Token.is_of_endsExpr ends (by decide)
    simp only [closers, List.contains_eq_mem, decide_eq_true_eq, List.mem_cons, List.not_mem_nil,
      or_false] at closes
    rw [op, noNot, noIs]
    rcases closes with same | same | same | same <;> rw [same] <;> exact pure none

theorem comparison (reads : Reads k (d .factor) (t :: ts) p e (u :: us)) (ends : u.endsExpr = true) :
    Reads k (comparison d) (t :: ts) p e (u :: us) := by
  refine andThen here (before (bitwiseOr reads ends) ?_)
  exact andThen (fold (.stop (andThen (compareOperator?_none ends) (pure none)))) (pure e)

theorem inversion (reads : Reads k (d .factor) (t :: ts) p e (u :: us)) (noNot : t.is "not" = false)
    (ends : u.endsExpr = true) : Reads k (inversion d) (t :: ts) p e (u :: us) :=
  andThen here (andThen (skip noNot) (comparison reads ends))

theorem expression (reads : Reads k (d .factor) (t :: ts) p e (u :: us)) (noLambda : t.is "lambda" = false)
    (noNot : t.is "not" = false) (ends : u.endsExpr = true) :
    Reads k (expression d) (t :: ts) p e (u :: us) := by
  refine andThen (isNext "lambda") ?_
  rw [noLambda]
  have disjunction : Reads k (disjunction d) (t :: ts) p e (u :: us) :=
    logical (logical (inversion reads noNot ends) ends (by decide)) ends (by decide)
  refine andThen here (before disjunction ?_)
  exact andThen (skip (Token.is_of_endsExpr ends (by decide))) (pure e)

theorem expression_of_primary (reads : Reads k (primary (rules n)) (t :: ts) p e (u :: us))
    (plain : t.isPlain = true) (ends : u.endsExpr = true) :
    Reads k (rules (n + 2) .expression) (t :: ts) p e (u :: us) := by
  have operand : Reads k (rules (n + 1) .factor) (t :: ts) p e (u :: us) := factor reads plain ends
  exact expression operand (Token.is_of_isPlain plain (by decide)) (Token.is_of_isPlain plain (by decide))
    ends

theorem starExpressions (reads : Reads k (d .expression) (t :: ts) p e (u :: us))
    (plain : t.isPlain = true) (noComma : u.is "," = false) :
    Reads k (starExpressions d) (t :: ts) p e (u :: us) := by
  have noStar : t.is "*" = false := Token.is_of_isPlain plain (by decide)
  have element : Reads k (starExpression d) (t :: ts) p e (u :: us) :=
    andThen here (andThen (skip noStar) reads)
  have elements : Reads k (commaList Token.startsStarred (starExpression d)) (t :: ts) p ([e], false)
      (u :: us) := by
    refine before element ?_
    exact andThen (fold (.stop (andThen (skip noComma) (pure none)))) (pure ([e], false))
  exact andThen here (before elements (pure e))

theorem atom_name (name : t.kind = .name) :
    Reads k (atom d) (t :: ts) True (.name t.pos (identifierOf t.text) .load) ts := by
  refine andThen peek ?_
  rw [name]
  exact andThen advance (pure _)

theorem trailer_none {pos : Pos} (ends : u.endsExpr = true) :
    Reads k (trailer d pos e) (u :: us) True none (u :: us) := by
  have other (spelling : String) (opens : closers.contains spelling = false) : u.is spelling = false :=
    Token.is_of_endsExpr ends opens
  refine andThen (skip (other "." (by decide))) (andThen (isNext "(") ?_)
  rw [other "(" (by decide)]
  exact andThen (skip (other "[" (by decide))) (pure none)

theorem trailer_attribute {pos : Pos} (dot : t.IsMark ".") :
    Reads k (trailer d pos e) (t :: u :: us) (u.kind = .name)
      (some (.attribute pos e (identifierOf u.text) .load)) us := by
  refine andThen (accept dot.is) ?_
  exact before identifier (pure _)

theorem trailer_call {pos : Pos} {args : List Expr} {keywords : List Keyword}
    (opening : t.IsMark "(")
    (reads : Reads k (arguments d true) (t :: ts) p (args, keywords) left) :
    Reads k (trailer d pos e) (t :: ts) p (some (.call pos e args keywords)) left := by
  refine andThen (skip (opening.isNot (by decide))) (andThen (isNext "(") ?_)
  rw [opening.is]
  exact before reads (pure _)

theorem expression_name (name : t.kind = .name) (ends : u.endsExpr = true) :
    Reads k (rules (n + 2) .expression) (t :: u :: us) True (.name t.pos (identifierOf t.text) .load)
      (u :: us) := by
  refine expression_of_primary ?_ (Token.isPlain_of_name name) ends
  exact andThen here (andThen (atom_name name) (fold (.stop (trailer_none ends))))

theorem namedExpression (reads : Reads k (d .expression) (t :: u :: us) p e left)
    (noValue : u.is ":=" = false) : Reads k (namedExpression d) (t :: u :: us) p e left :=
  andThen (isNameBefore (.inr noValue)) reads

theorem arguments_none {generator : Bool} (opening : t.IsMark "(") (closing : u.IsMark ")") :
    Reads k (arguments d generator) (t :: u :: us) True ([], []) us :=
  andThen here (andThen (expect opening.is) (andThen (accept closing.is) (pure _)))

theorem argument_name {done : Arguments} (name : t.kind = .name) (noKeyword : u.is "=" = false)
    (noValue : u.is ":=" = false) (first : done.keywords = [])
    (reads : Reads k (d .expression) (t :: u :: us) p e left) :
    Reads k (argument d done) (t :: u :: us) p { done with args := e :: done.args } left := by
  have other := Token.isNot_of_name name
  refine andThen peek (andThen (skip (other "**")) (andThen (skip (other "*")) ?_))
  refine andThen (isNameBefore (.inr noKeyword)) ?_
  rw [first]
  exact before (namedExpression reads noValue) (pure _)

theorem argument_star {done : Arguments} (star : t.IsMark "*") (noMapping : done.unpacksMapping = false)
    (reads : Reads k (d .expression) ts p e left) :
    Reads k (argument d done) (t :: ts) p { done with args := .starred t.pos e .load :: done.args }
      left := by
  refine andThen peek (andThen (skip (star.isNot (by decide))) (andThen (accept star.is) ?_))
  rw [noMapping]
  exact before reads (pure _)

theorem argument_stars {done : Arguments} (stars : t.IsMark "**")
    (reads : Reads k (d .expression) ts p e left) :
    Reads k (argument d done) (t :: ts) p
      { done with keywords := .mk t.pos none e :: done.keywords, unpacksMapping := true } left :=
  andThen peek (andThen (accept stars.is) (before reads (pure _)))

theorem arguments_one {opening closing : Token} (opens : opening.IsMark "(")
    (closes : closing.IsMark ")") (name : t.kind = .name) (noKeyword : u.is "=" = false)
    (noValue : u.is ":=" = false)
    (reads : Reads k (d .expression) (t :: u :: us) p e (closing :: left)) :
    Reads k (arguments d false) (opening :: t :: u :: us) p ([e], []) left := by
  have noEnd := Token.isNot_of_name name ")"
  refine andThen here (andThen (expect opens.is) (andThen (skip noEnd) ?_))
  refine before (argument_name name noKeyword noValue rfl reads) ?_
  refine andThen (pure false) (andThen (fold (.stop ?_)) (andThen (expect closes.is) (pure _)))
  exact andThen (skip (closes.isNot (by decide))) (pure none)

theorem arguments_all {opening star comma stars closing : Token} (opens : opening.IsMark "(")
    (isStar : star.IsMark "*") (args : t.kind = .name) (separates : comma.IsMark ",")
    (isStars : stars.IsMark "**") (keywords : u.kind = .name) (closes : closing.IsMark ")") :
    Reads k (arguments (rules (n + 3)) true)
      (opening :: star :: t :: comma :: stars :: u :: closing :: ts) True
      ([.starred star.pos (.name t.pos (identifierOf t.text) .load) .load],
        [.mk stars.pos none (.name u.pos (identifierOf u.text) .load)]) ts := by
  have first : Reads k (argument (rules (n + 3)) ⟨[], [], false⟩)
      (star :: t :: comma :: stars :: u :: closing :: ts) True _ (comma :: stars :: u :: closing :: ts) :=
    argument_star isStar rfl (expression_name args (separates.endsExpr (by decide)))
  have second : Reads k (argument (rules (n + 3))
      ⟨[.starred star.pos (.name t.pos (identifierOf t.text) .load) .load], [], false⟩)
      (stars :: u :: closing :: ts) True _ (closing :: ts) :=
    argument_stars isStars (expression_name keywords (closes.endsExpr (by decide)))
  have starts : (stars.startsStarred || stars.is "**") = true := by
    rw [isStars.is, Bool.or_true]
  refine andThen here (andThen (expect opens.is) (andThen (skip (isStar.isNot (by decide))) ?_))
  refine andThen first (andThen (pure false) (andThen (fold (.andThen
    (andThen (accept separates.is) (andThen peek (ite_pos starts (andThen second (pure _)))))
    (by simp) (.stop ?_))) (andThen (expect closes.is) (pure _))))
  exact andThen (skip (closes.isNot (by decide))) (pure none)

end Reads

/-- A token that no expression begins with. -/
structure Token.IsStray (t : Token) : Prop where
  kind : t.kind = .keyword ∨ t.kind = .op
  text : ["(", "[", "\x7b", "True", "False", "None", "..."].contains t.text = false
  plain : t.isPlain = true

namespace Reads

variable {k : Stops} {t : Token} {ts : List Token} {n : Nat} {d : Deeper}

theorem primary_fails (stray : t.IsStray) : Fails k (primary d) (t :: ts) := by
  have atom : Fails k (atom d) (t :: ts) := by
    obtain ⟨kind, text, -⟩ := stray
    simp only [List.contains_eq_mem, decide_eq_false_iff_not, List.mem_cons, List.not_mem_nil, or_false,
      not_or] at text
    obtain ⟨round, square, curly, yes, no, nothing, dots⟩ := text
    have unknown : [("True", Constant.bool true), ("False", .bool false), ("None", .none),
        ("...", .ellipsis)].lookup t.text = none := by
      simp [yes, no, nothing, dots]
    refine .andThen peek ?_
    rcases kind with kind | kind <;> rw [kind] <;>
      simpa [Token.is, kind, round, square, curly, unknown] using Fails.mismatch
  exact .andThen here (.first atom)

/-- What a rule reads for operands in front of a line's end tells where it fails: where no operand is
read, the end of the line does not matter. -/
theorem fails_of_operand {α : Type} {rule : Read α} {e : α} (stray : t.IsStray)
    (reads : Reads k (primary d) (t :: ts) False (.constant ⟨0, 0⟩ .none none) [Lexer.newlineMark 0 0] →
      Reads k rule (t :: ts) False e [Lexer.newlineMark 0 0]) : Fails k rule (t :: ts) :=
  .of_reads (reads (of_fails (primary_fails stray) id _ _))

theorem factor_fails (stray : t.IsStray) : Fails k (rules (n + 1) .factor) (t :: ts) :=
  fails_of_operand stray fun operand => factor operand stray.plain rfl

theorem inversion_fails (stray : t.IsStray) : Fails k (rules (n + 2) .inversion) (t :: ts) :=
  fails_of_operand stray fun operand => inversion (d := rules (n + 1))
    (factor operand stray.plain rfl) (Token.is_of_isPlain stray.plain (by decide)) rfl

theorem expression_fails (stray : t.IsStray) : Fails k (rules (n + 2) .expression) (t :: ts) :=
  fails_of_operand stray fun operand => expression_of_primary operand stray.plain rfl

end Reads

theorem word_token_kind {gap line column : Nat} {text : String} :
    ((Lexer.Lexeme.word gap text).token line column).kind = .name ↔ isKeyword text = false := by
  show (if isKeyword text then TokenKind.keyword else .name) = .name ↔ _
  cases isKeyword text <;> decide

theorem mark_token {gap line column : Nat} (text : String) :
    ((Lexer.Lexeme.mark gap text).token line column).IsMark text := ⟨rfl, rfl⟩

theorem Loops.attributes {k : Stops} {d : Deeper} {u : Token} {us : List Token} {pos : Pos} {e : Expr}
    {parts : List String} {line column : Nat} (ends : u.endsExpr = true) :
    Loops k (trailer d pos) e (Lexer.lineTokens line column (Lexer.furtherParts parts) ++ u :: us)
      (∀ part ∈ parts, isKeyword part = false)
      (parts.foldl (fun e part => .attribute pos e (identifierOf part) .load) e) (u :: us) := by
  induction parts generalizing e column with
  | nil => exact congr (stop (.trailer_none ends)) (by simp)
  | cons part parts ih =>
    refine congr (next (.trailer_attribute (mark_token ".")) ?_ ih) ?_
    · exact Nat.lt_succ_of_lt (Nat.lt_succ_self _)
    · rw [word_token_kind, List.forall_mem_cons]

theorem Loops.nextParts {k : Stops} {u : Token} {us : List Token} {name : String} {parts : List String}
    {line column : Nat} (ends : u.is "." = false) :
    Loops k nextPart name (Lexer.lineTokens line column (Lexer.furtherParts parts) ++ u :: us)
      (∀ part ∈ parts, isKeyword part = false)
      (parts.foldl (fun name part => name ++ "." ++ identifierOf part) name) (u :: us) := by
  induction parts generalizing name column with
  | nil => exact congr (stop (.andThen (.skip ends) (.pure none))) (by simp)
  | cons part parts ih =>
    have dot : ((Lexer.Lexeme.mark 0 ".").token line column).is "." = true := (mark_token ".").is
    refine congr (next (.andThen (.accept dot) (.before .identifier (.pure _))) ?_ ih) ?_
    · exact Nat.lt_succ_of_lt (Nat.lt_succ_self _)
    · rw [word_token_kind, List.forall_mem_cons]

end PluginBuild.Script
