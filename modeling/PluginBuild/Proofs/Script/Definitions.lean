import PluginBuild.Proofs.Script.Statements

/-!
Blocks of statements, and classes and methods with such a block.
-/

namespace PluginBuild.Script

open Read

/-- A token at which a block goes on. -/
def Token.opensStatement (t : Token) : Bool := !(t.kind == .dedent || t.kind == .finish)

namespace Loops

variable {k : Stops} {p q : Prop} {d : Deeper} {t u : Token} {ts us left : List Token}
  {b : List Stmt} {done blocks : List (List Stmt)}

theorem statement (opens : t.opensStatement = true) (reads : Reads k (statement d) (t :: ts) p b left)
    (shorter : left.length < (t :: ts).length)
    (rest : Loops k (nextStatement d) (b :: done) left q blocks us) :
    Loops k (nextStatement d) done (t :: ts) (p ∧ q) blocks us := by
  have goesOn : ¬ (t.kind = .dedent || t.kind = .finish) = true := by
    simpa [Token.opensStatement] using opens
  exact next (.andThen .peek (.ite_neg goesOn (.before reads (.pure _)))) shorter rest

theorem andThenStatement (opens : t.opensStatement = true)
    (reads : Reads k (Script.statement d) (t :: ts) True b left) (shorter : left.length < (t :: ts).length)
    (rest : Loops k (nextStatement d) (b :: done) left q blocks us) :
    Loops k (nextStatement d) done (t :: ts) q blocks us :=
  congr (statement opens reads shorter rest) (iff_of_eq (true_and q))

theorem noStatement (ends : t.kind = .dedent ∨ t.kind = .finish) :
    Loops k (nextStatement d) done (t :: ts) True done (t :: ts) :=
  stop (.andThen .peek (.ite_pos (by simpa using ends) (.pure none)))

end Loops

namespace Reads

variable {k : Stops} {p q : Prop} {d : Deeper} {t u : Token} {ts us left : List Token} {s : Stmt}
  {e : Expr} {b : List Stmt}

theorem statements {blocks : List (List Stmt)} (loops : Loops k (nextStatement d) [] ts p blocks left) :
    Reads k (Script.statements d) ts p blocks.reverse.flatten left :=
  before (fold loops) (pure _)

theorem blockOf {n : Nat} {colon nl indent dedent : Token} {owner : String} {line : Nat}
    (opens : colon.IsMark ":") (newline : nl.kind = .newline) (deeper : indent.kind = .indent)
    (ends : dedent.kind = .dedent)
    (reads : Reads k (Script.statements (rules n)) ts p b (dedent :: left)) :
    Reads k (blockOf (rules (n + 1)) owner line) (colon :: nl :: indent :: ts) p b left := by
  have within : Reads k (block (rules n)) (nl :: indent :: ts) p b left := by
    refine andThen peek (ite_pos newline (andThen advance (andThen
      ((expectKind .indent).congr (iff_of_true deeper trivial)) (before reads (andThen
      ((expectKind .dedent).congr (iff_of_true ends trivial)) (pure b))))))
  refine andThen (expect opens.is) (andThen peek (ite_pos newline (andThen peekSecond ?_)))
  rw [deeper]
  exact within

theorem classStatement {n : Nat} {word colon nl indent dedent : Token} {bases : List Expr}
    {keywords : List Keyword} (defines : word.IsKeyword "class") (opens : u.IsMark "(")
    (args : Reads k (arguments (rules (n + 1)) false) (u :: us) p (bases, keywords)
      (colon :: nl :: indent :: ts))
    (colons : colon.IsMark ":") (newline : nl.kind = .newline) (deeper : indent.kind = .indent)
    (ends : dedent.kind = .dedent)
    (reads : Reads k (Script.statements (rules n)) ts q b (dedent :: left)) :
    Reads k (classStatement (rules (n + 1)) []) (word :: t :: u :: us) (t.kind = .name ∧ p ∧ q)
      (.class word.pos (identifierOf t.text) bases keywords b []) left := by
  refine andThen peek (andThen (expect defines.is) (bind identifier fun _ => ?_))
  refine andThen (isNext "(") (ite_pos opens.is (bind args fun _ => ?_))
  exact before (blockOf colons newline deeper ends reads) (pure _)

theorem functionStatement {n : Nat} {word closing colon nl indent dedent : Token} {ps : Params}
    (defines : word.IsKeyword "def") (name : t.kind = .name) (opens : u.IsMark "(")
    (reads : Reads k (params (rules (n + 1)) true) us True ps (closing :: colon :: nl :: indent :: ts))
    (closes : closing.IsMark ")") (colons : colon.IsMark ":") (newline : nl.kind = .newline)
    (deeper : indent.kind = .indent) (ends : dedent.kind = .dedent)
    (body : Reads k (Script.statements (rules n)) ts p b (dedent :: left)) :
    Reads k (functionStatement (rules (n + 1)) word.pos false []) (word :: t :: u :: us) p
      (.function word.pos false (identifierOf t.text) ps b [] none) left := by
  refine andThen peek (andThen (expect defines.is) (andThen
    (identifier.congr (iff_of_true name trivial)) (andThen (expect opens.is) (andThen reads
    (andThen (expect closes.is) ?_)))))
  refine andThen (skip (colons.isNot (by decide))) (andThen (pure none) ?_)
  exact before (blockOf colons newline deeper ends body) (pure _)

theorem statement_class (defines : t.IsKeyword "class")
    (reads : Reads k (Script.classStatement d []) (t :: ts) p s left) :
    Reads k (Script.statement d) (t :: ts) p [s] left := by
  refine andThen peek (ite_pos defines.kind ?_)
  rw [defines.text]
  exact before reads (pure _)

theorem statement_function (defines : t.IsKeyword "def")
    (reads : Reads k (Script.functionStatement d t.pos false []) (t :: ts) p s left) :
    Reads k (Script.statement d) (t :: ts) p [s] left := by
  refine andThen peek (ite_pos defines.kind ?_)
  rw [defines.text]
  exact before reads (pure _)

theorem param {starHint : Bool} (name : t.kind = .name) (noHint : u.is ":" = false) :
    Reads k (param d true starHint) (t :: u :: us) True (.mk t.pos (identifierOf t.text) none)
      (u :: us) := by
  refine andThen ((expectKind .name).congr (iff_of_true name trivial)) ?_
  exact andThen (andThen (pure true) (skip noHint)) (pure _)

theorem paramEntry_first (name : t.kind = .name) (noHint : u.is ":" = false)
    (noDefault : u.is "=" = false) :
    Reads k (paramEntry d true .none) (t :: u :: us) True
      { ParamsRead.none with positional := [⟨.mk t.pos (identifierOf t.text) none, none⟩] }
      (u :: us) := by
  have other := Token.isNot_of_name name
  refine andThen (skip (other "**")) (andThen (skip (other "*")) (andThen (skip (other "/")) ?_))
  exact andThen (param name noHint) (andThen (skip noDefault) (andThen (pure none) (pure _)))

theorem paramEntry_star {done : ParamsRead} (star : t.IsMark "*") (name : u.kind = .name)
    (noRest : done.keywordRest = none) (noStar : done.hasStar = false) {v : Token}
    (noHint : v.is ":" = false) :
    Reads k (paramEntry d true done) (t :: u :: v :: us) True
      { done with hasStar := true, rest := some (.mk u.pos (identifierOf u.text) none) } (v :: us) := by
  have noComma := Token.isNot_of_name name ","
  unfold paramEntry
  rw [noRest]
  refine andThen (skip (star.isNot (by decide))) (andThen (accept star.is) (ite_pos rfl ?_))
  refine ite_neg (by simp [noStar]) (andThen (isNext ",") (ite_neg (by simp [noComma]) ?_))
  exact andThen (param name noHint) (pure _)

theorem paramEntry_stars {done : ParamsRead} (stars : t.IsMark "**") (name : u.kind = .name)
    (noRest : done.keywordRest = none) {v : Token} (noHint : v.is ":" = false) :
    Reads k (paramEntry d true done) (t :: u :: v :: us) True
      { done with keywordRest := some (.mk u.pos (identifierOf u.text) none) } (v :: us) := by
  unfold paramEntry
  rw [noRest]
  exact andThen (accept stars.is) (andThen (param name noHint) (pure _))

theorem params_all {v comma star comma' stars closing : Token} (first : t.kind = .name)
    (separates : comma.IsMark ",") (isStar : star.IsMark "*") (args : u.kind = .name)
    (separates' : comma'.IsMark ",") (isStars : stars.IsMark "**") (keywords : v.kind = .name)
    (closes : closing.IsMark ")") :
    Reads k (params d true) (t :: comma :: star :: u :: comma' :: stars :: v :: closing :: ts) True
      (.mk [] [.mk t.pos (identifierOf t.text) none] (some (.mk u.pos (identifierOf u.text) none)) [] []
        (some (.mk v.pos (identifierOf v.text) none)) []) (closing :: ts) := by
  refine andThen peek (ite_neg (by simp [first]) (andThen (paramEntry_first first
    (separates.isNot (by decide)) (separates.isNot (by decide))) (andThen (fold (.andThen
      (andThen (accept separates.is) (andThen peek (ite_pos (by simp [isStar.is]) (andThen
        (paramEntry_star isStar args rfl rfl (separates'.isNot (by decide))) (pure _))))) (by simp)
      (.andThen (andThen (accept separates'.is) (andThen peek (ite_pos (by simp [isStars.is]) (andThen
        (paramEntry_stars isStars keywords rfl (closes.isNot (by decide))) (pure _))))) (by simp)
        (.stop (andThen (skip (closes.isNot (by decide))) (pure none)))))) (pure _))))

end Reads

end PluginBuild.Script
