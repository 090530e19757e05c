import PluginBuild.Proofs.Frame.Tokens
import PluginBuild.Proofs.Script.Definitions
import PluginBuild.Proofs.Script.Keywords

/-!
The frame read back. For names that are identifiers, the text of the frame has one tree: the import
of the template's module and the class with its method. It has none if one of the names is a keyword.
So the frame that is put together from plain names is the one that its text would be read as.
-/

namespace PluginBuild

open PluginBuild.Script PluginBuild.Script.Lexer PluginBuild.Text

structure HasNoKeyword (c : PluginClass) (t : Template) : Prop where
  module : ∀ part ∈ split '.' t.module, isKeyword part = false
  name : isKeyword c.name = false
  base : ∀ part ∈ split '.' t.name, isKeyword part = false
  receiver : isKeyword t.receiver = false

namespace Frame

section
variable {k : Stops} {d : Deeper} {left : List Token}

open Reads

theorem isKeyword_token {gap line column : Nat} {word : String} (keyword : isKeyword word = true) :
    ((Lexeme.word gap word).token line column).IsKeyword word := by
  refine ⟨?_, rfl⟩
  simp [Lexeme.word, Lexeme.token, keyword]

theorem name_token {gap line column : Nat} {word : String} (name : isKeyword word = false) :
    ((Lexeme.word gap word).token line column).kind = .name := word_token_kind.mpr name

theorem opensStatement_token {gap line column : Nat} (word : String) :
    ((Lexeme.word gap word).token line column).opensStatement = true := by
  cases keyword : isKeyword word <;> simp [Token.opensStatement, Lexeme.token, Lexeme.word, keyword]

theorem shorter_line (line column : Nat) (ls : List Lexeme) (rest : List Token) :
    rest.length < (wholeLine line column ls ++ rest).length := by
  simp [wholeLine]
  omega

theorem newlineMark_kind {line column : Nat} : (newlineMark line column).kind = .newline := rfl

theorem indentMark_kind {kind : TokenKind} {line cursor : Nat} :
    (indentMark kind line cursor).kind = kind := rfl

theorem furtherParts_cons (part : String) (parts : List String) :
    furtherParts (part :: parts) = .mark 0 "." :: .word 0 part :: furtherParts parts := rfl

theorem foldl_append (first second : String) (parts : List String) :
    parts.foldl (fun name part => name ++ "." ++ identifierOf part) (first ++ second) =
      first ++ parts.foldl (fun name part => name ++ "." ++ identifierOf part) second := by
  induction parts generalizing second with
  | nil => rfl
  | cons part parts ih =>
    rw [List.foldl_cons, List.foldl_cons, ← ih]
    simp only [String.append_assoc]

theorem foldl_parts (first : String) (parts : List String) :
    parts.foldl (fun name part => name ++ "." ++ identifierOf part) (identifierOf first) =
      join "." ((first :: parts).map identifierOf) := by
  induction parts generalizing first with
  | nil => rfl
  | cons part parts ih =>
    rw [List.foldl_cons, foldl_append, ih]
    simp [join]

theorem reads_import (t : Template) :
    Reads k (statement d) (wholeLine 1 0 (importLine (split '.' t.module)) ++ left)
      (∀ part ∈ split '.' t.module, isKeyword part = false) [importOfTemplate t.module] left := by
  obtain ⟨first, further, parts⟩ := List.exists_cons_of_ne_nil (split_ne_nil '.' t.module)
  have statement : importOfTemplate t.module = .importModules ⟨1, 0⟩ [⟨⟨1, 7⟩,
      further.foldl (fun name part => name ++ "." ++ identifierOf part) (identifierOf first),
      some (identifierOf templateAlias)⟩] := by
    rw [importOfTemplate, parts, ← foldl_parts]
    rfl
  rw [statement, parts]
  simp only [wholeLine, importLine, dotted, lineTokens, lineTokens_append, List.cons_append,
    List.append_assoc, List.nil_append]
  refine Reads.congr (statement_import (isKeyword_token (by decide)) newlineMark_kind
    (importStatement (isKeyword_token (by decide)) (isKeyword_token (by decide))
      (name_token (show isKeyword templateAlias = false by decide)) newlineMark_kind)) ?_
  rw [word_token_kind, List.forall_mem_cons]

theorem reads_call {n : Nat} :
    Reads k (statement (rules (n + 5))) (wholeLine 6 8 callLine ++ left) True [initCall] left := by
  have statement : initCall = .expr ⟨6, 8⟩ (.call ⟨6, 8⟩ (.attribute ⟨6, 8⟩
      (.call ⟨6, 8⟩ (.name ⟨6, 8⟩ (identifierOf "super") .load) [] []) (identifierOf "__init__") .load)
      [.starred ⟨6, 25⟩ (.name ⟨6, 26⟩ (identifierOf "args") .load) .load]
      [.mk ⟨6, 32⟩ none (.name ⟨6, 34⟩ (identifierOf "kwargs") .load)]) := rfl
  have newline : (newlineMark 6 (8 + byteLength (lineText callLine))).kind = .newline := rfl
  rw [statement]
  simp only [wholeLine, callLine, lineTokens, List.cons_append, List.nil_append] at newline ⊢
  refine statement_name (name_token (by decide)) (by decide) newline
    (expressionStatement_expr (name_token (by decide)) newline ?_)
  refine expression_of_primary ?_ (by decide) rfl
  refine andThen here (andThen (atom_name (name_token (by decide))) (fold ?_))
  refine .andThen (trailer_call (mark_token "(") (arguments_none (mark_token "(") (mark_token ")")))
    (by simp) ?_
  refine .andThen ((trailer_attribute (mark_token ".")).congr (iff_of_true (name_token (by decide)) trivial))
    (by simp) ?_
  refine .andThen (trailer_call (mark_token "(") (arguments_all (mark_token "(") (mark_token "*")
    (name_token (by decide)) (mark_token ",") (mark_token "**") (name_token (by decide)) (mark_token ")")))
    (by simp) (.stop (trailer_none rfl))

theorem reads_receiver {n : Nat} (receiver : String) :
    Reads .any (statement (rules (n + 3))) (wholeLine 7 8 (receiverLine receiver) ++ left)
      (isKeyword receiver = false) [receiverAssignment receiver] left := by
  simp only [wholeLine, receiverLine, lineTokens, List.cons_append, List.nil_append]
  cases keyword : isKeyword receiver with
  | true =>
    have kind : ((Lexeme.word 0 receiver).token 7 8).kind = .keyword := (isKeyword_token keyword).kind
    exact of_fails (statement_keyword kind keyword (mark_token "=")) (by simp) _ _
  | false =>
    have value : 8 + 0 + receiver.utf8ByteSize + 1 + "=".utf8ByteSize + 1 = 11 + receiver.utf8ByteSize := by
      show 8 + 0 + receiver.utf8ByteSize + 1 + 1 + 1 = _
      omega
    have statement : receiverAssignment receiver = .assign ⟨7, 8⟩ [.name ⟨7, 8⟩ (identifierOf receiver) .store]
        (.name ⟨7, 8 + 0 + receiver.utf8ByteSize + 1 + "=".utf8ByteSize + 1⟩ (identifierOf "self") .load) := by
      rw [value]
      rfl
    rw [statement]
    exact (statement_assign (name_token keyword) (mark_token "=")
      (name_token (by decide)) newlineMark_kind).congr
      (iff_of_true trivial rfl)

theorem reads_method {n : Nat} {p : Prop} {inside : List Token} {body : List Stmt} {ending : Token}
    (ends : ending.kind = .dedent) (reads : Reads k (statements (rules n)) inside p body (ending :: left)) :
    Reads k (statement (rules (n + 1))) (wholeLine 5 4 methodLine ++ indentMark .indent 6 8 :: inside) p
      [.function ⟨5, 4⟩ false "__init__" initParams body [] none] left := by
  have statement : Stmt.function ⟨5, 4⟩ false "__init__" initParams body [] none =
      .function ⟨5, 4⟩ false (identifierOf "__init__")
        (.mk [] [.mk ⟨5, 17⟩ (identifierOf "self") none] (some (.mk ⟨5, 24⟩ (identifierOf "args") none)) [] []
          (some (.mk ⟨5, 32⟩ (identifierOf "kwargs") none)) []) body [] none := rfl
  rw [statement]
  simp only [wholeLine, methodLine, lineTokens, List.cons_append, List.nil_append]
  exact statement_function (isKeyword_token (by decide)) (functionStatement (isKeyword_token (by decide))
    (name_token (by decide)) (mark_token "(") (params_all (name_token (by decide)) (mark_token ",")
      (mark_token "*") (name_token (by decide)) (mark_token ",") (mark_token "**") (name_token (by decide))
      (mark_token ")")) (mark_token ")") (mark_token ":") newlineMark_kind indentMark_kind ends reads)

theorem reads_class {n : Nat} {p : Prop} {inside : List Token} {body : List Stmt} {ending : Token}
    (name base : String) (ends : ending.kind = .dedent)
    (reads : Reads k (statements (rules (n + 1))) inside p body (ending :: left)) :
    Reads k (statement (rules (n + 2)))
      (wholeLine 4 0 (classLine name (split '.' base)) ++ indentMark .indent 5 4 :: inside)
      (isKeyword name = false ∧ (∀ part ∈ split '.' base, isKeyword part = false) ∧ p)
      [.class ⟨4, 0⟩ (identifierOf name) [baseOfTemplate ⟨4, 7 + name.utf8ByteSize⟩ base] [] body []] left := by
  obtain ⟨first, further, parts⟩ := List.exists_cons_of_ne_nil (split_ne_nil '.' base)
  -- The place of the base is the sum of what stands in front of it, as the tokens give it.
  have column : 0 + 0 + 5 + 1 + name.utf8ByteSize + 0 + 1 + 0 = 7 + name.utf8ByteSize := by omega
  have value : baseOfTemplate ⟨4, 7 + name.utf8ByteSize⟩ base =
      (first :: further).foldl (fun e part =>
          .attribute ⟨4, 0 + 0 + 5 + 1 + name.utf8ByteSize + 0 + 1 + 0⟩ e (identifierOf part) .load)
        (.name ⟨4, 0 + 0 + 5 + 1 + name.utf8ByteSize + 0 + 1 + 0⟩ (identifierOf templateAlias) .load) := by
    rw [column, baseOfTemplate, parts, List.foldl_map]
    rfl
  rw [value, parts]
  simp only [wholeLine, classLine, furtherParts_cons, lineTokens, lineTokens_append, List.cons_append,
    List.nil_append, List.append_assoc]
  have closes {column : Nat} : ((Lexeme.mark 0 ")").token 4 column).endsExpr = true := rfl
  refine Reads.congr (statement_class (isKeyword_token (by decide)) (classStatement
    (isKeyword_token (by decide)) (mark_token "(") (arguments_one (mark_token "(") (mark_token ")")
      (name_token (show isKeyword templateAlias = false by decide)) ((mark_token ".").isNot (by decide))
      ((mark_token ".").isNot (by decide)) (expression_of_primary (andThen here (andThen
        (atom_name (name_token (show isKeyword templateAlias = false by decide)))
        (fold (.next (trailer_attribute (mark_token ".")) (Nat.lt_succ_of_lt (Nat.lt_succ_self _))
          (.attributes closes))))) rfl rfl)) (mark_token ":") newlineMark_kind indentMark_kind ends
    reads)) ?_
  simp only [word_token_kind, List.forall_mem_cons]

def emptyClass (c : PluginClass) (t : Template) : Stmt :=
  pluginClassStatement c.name t.name t.receiver []

theorem reads_methodBlock {n : Nat} (receiver : String) {ending : Token} (ends : ending.kind = .dedent) :
    Reads .any (statements (rules (n + 5)))
      (wholeLine 6 8 callLine ++ (wholeLine 7 8 (receiverLine receiver) ++ ending :: left))
      (isKeyword receiver = false) [initCall, receiverAssignment receiver] (ending :: left) := by
  have second : Loops .any (nextStatement (rules (n + 5))) [[initCall]]
      (wholeLine 7 8 (receiverLine receiver) ++ ending :: left) (isKeyword receiver = false ∧ True)
      [[receiverAssignment receiver], [initCall]] (ending :: left) :=
    .statement (opensStatement_token receiver) (reads_receiver receiver)
      (shorter_line 7 8 (receiverLine receiver) _) (.noStatement (.inl ends))
  have both := Loops.andThenStatement rfl reads_call (shorter_line 6 8 callLine _) second
  exact (statements both).congr (iff_of_eq (and_true _))

theorem reads_classBlock {n : Nat} (receiver : String) {first second : Token} (inner : first.kind = .dedent)
    (outer : second.kind = .dedent) :
    Reads .any (statements (rules (n + 6)))
      (wholeLine 5 4 methodLine ++ indentMark .indent 6 8 ::
        (wholeLine 6 8 callLine ++ (wholeLine 7 8 (receiverLine receiver) ++ first :: second :: left)))
      (isKeyword receiver = false)
      [.function ⟨5, 4⟩ false "__init__" initParams [initCall, receiverAssignment receiver] [] none]
      (second :: left) := by
  have shorter : (second :: left).length < (wholeLine 5 4 methodLine ++ indentMark .indent 6 8 ::
      (wholeLine 6 8 callLine ++ (wholeLine 7 8 (receiverLine receiver) ++
        first :: second :: left))).length := by
    simp only [List.length_append, List.length_cons]
    omega
  have loops : Loops .any (nextStatement (rules (n + 6))) [] _ (isKeyword receiver = false ∧ True)
      [[.function ⟨5, 4⟩ false "__init__" initParams [initCall, receiverAssignment receiver] [] none]]
      (second :: left) :=
    .statement rfl (reads_method inner (reads_methodBlock receiver inner)) shorter
      (.noStatement (.inl outer))
  exact (statements loops).congr (iff_of_eq (and_true _))

theorem reads_statements {n : Nat} {last : Nat} (c : PluginClass) (t : Template) {finish : Token}
    (ends : finish.kind = .finish) :
    Reads .any (statements (rules (n + 7)))
      (wholeLine 1 0 (importLine (split '.' t.module)) ++
        (wholeLine 4 0 (classLine c.name (split '.' t.name)) ++ indentMark .indent 5 4 ::
          (wholeLine 5 4 methodLine ++ indentMark .indent 6 8 :: (wholeLine 6 8 callLine ++
            (wholeLine 7 8 (receiverLine t.receiver) ++
              indentMark .dedent 7 last :: indentMark .dedent 7 last :: finish :: left)))))
      (HasNoKeyword c t) [importOfTemplate t.module, emptyClass c t] (finish :: left) := by
  have shorter : (finish :: left).length <
      (wholeLine 4 0 (classLine c.name (split '.' t.name)) ++ indentMark .indent 5 4 ::
        (wholeLine 5 4 methodLine ++ indentMark .indent 6 8 :: (wholeLine 6 8 callLine ++
          (wholeLine 7 8 (receiverLine t.receiver) ++
            indentMark .dedent 7 last :: indentMark .dedent 7 last :: finish :: left)))).length := by
    simp only [List.length_append, List.length_cons]
    omega
  have second : Loops .any (nextStatement (rules (n + 7))) [[importOfTemplate t.module]] _ _
      [[emptyClass c t], [importOfTemplate t.module]] (finish :: left) :=
    .statement rfl (reads_class c.name t.name indentMark_kind (reads_classBlock t.receiver indentMark_kind
      indentMark_kind)) shorter (.noStatement (.inr ends))
  have both := Loops.statement (opensStatement_token "import") (reads_import t)
    (shorter_line 1 0 (importLine (split '.' t.module)) _) second
  refine Reads.congr (statements both) ⟨?_, ?_⟩
  · rintro ⟨module, ⟨name, base, receiver⟩, -⟩
    exact ⟨module, name, base, receiver⟩
  · rintro ⟨module, name, base, receiver⟩
    exact ⟨module, ⟨name, base, receiver⟩, trivial⟩

theorem reads_frame (c : PluginClass) (t : Template) :
    Reads .any moduleRule (tokens c t) (HasNoKeyword c t)
      ⟨[importOfTemplate t.module, emptyClass c t]⟩ [] := by
  have nesting : maxNesting = 5993 + 7 := rfl
  rw [moduleRule, nesting]
  refine before (reads_statements c t indentMark_kind) ?_
  exact andThen ((expectKind .finish).congr (iff_of_true indentMark_kind trivial)) (pure _)

end

section
variable {c : PluginClass} {t : Template}

theorem isDeeperThan_attributes {n : Nat} {pos : Pos} {e : Expr} (parts : List String)
    (flat : Node.isDeeperThan (n + 1) (.expr e) = false) :
    Node.isDeeperThan (n + 1 + parts.length)
      (.expr (parts.foldl (fun e part => .attribute pos e part .load) e)) = false := by
  induction parts generalizing n e with
  | nil => exact flat
  | cons part parts ih =>
    have one : Node.isDeeperThan (n + 1 + 1) (.expr (.attribute pos e part .load)) = false := by
      show (Node.isDeeperThan (n + 1) (.expr e) || _) = false
      rw [flat]
      rfl
    have all := ih one
    rwa [Nat.add_right_comm (n + 1) 1, Nat.add_assoc (n + 1)] at all

theorem isDeeperThan_method {n : Nat} (receiver : String) : Node.isDeeperThan (n + 8)
    (.stmt (.function ⟨5, 4⟩ false "__init__" initParams [initCall, receiverAssignment receiver] [] none)) =
      false := rfl

theorem isDeeperThan_frame (few : (split '.' t.name).length ≤ maxNameParts) :
    [Node.stmt (importOfTemplate t.module), .stmt (emptyClass c t)].any (Node.isDeeperThan maxTreeDepth) =
      false := by
  -- The class takes up the levels that are missing here.
  have base : Node.isDeeperThan 2979 (.expr (baseOfTemplate ⟨4, 7 + c.name.utf8ByteSize⟩ t.name)) = false := by
    let parts := (split '.' t.name).map identifierOf
    obtain ⟨n, levels⟩ : ∃ n, 2979 = n + 1 + 1 + parts.length := by
      have bound : parts.length ≤ 1000 := by simpa [parts, maxNameParts] using few
      exact ⟨2977 - parts.length, by omega⟩
    rw [levels]
    exact isDeeperThan_attributes parts rfl
  have imports : Node.isDeeperThan maxTreeDepth (.stmt (importOfTemplate t.module)) = false := rfl
  have defines : Node.isDeeperThan maxTreeDepth (.stmt (emptyClass c t)) = false := by
    show (Node.isDeeperThan 2979 (.expr (baseOfTemplate ⟨4, 7 + c.name.utf8ByteSize⟩ t.name)) ||
      (Node.isDeeperThan 2979 (.stmt (.function ⟨5, 4⟩ false "__init__" initParams
        [initCall, receiverAssignment t.receiver] [] none)) || false)) = false
    rw [base, isDeeperThan_method (n := 2971)]
    rfl
  simp only [List.any_cons, List.any_nil, imports, defines, Bool.or_false]

/-- The tree of the frame's text, unless a name in it is a keyword. -/
theorem parse_frameText (names : HasIdentifiers c t) :
    (HasNoKeyword c t → Module.parse (normalizeNewlines (frameText c t).toList) false =
      if [Node.stmt (importOfTemplate t.module), .stmt (emptyClass c t)].any
          (Node.isDeeperThan maxTreeDepth) then .error .tooDeep
      else .ok ⟨[importOfTemplate t.module, emptyClass c t]⟩) ∧
    (¬ HasNoKeyword c t →
      ∃ e, Module.parse (normalizeNewlines (frameText c t).toList) false = .error e) := by
  -- Nothing in the text is changed or refused before it is scanned.
  have classes := above_control_of_spelled (spelled_classLine names.name names.base)
  have noReturn : '\r' ∉ (frameText c t).toList :=
    frameText_absent names.module classes names.receiver (by decide) (by decide)
  have noNull : ¬ (frameText c t).toList.contains '\x00' = true := fun found =>
    frameText_absent names.module classes names.receiver (by decide) (by decide)
      (List.contains_iff_mem.mp found)
  have ahead : Cursor.ahead ⟨tokenize (frameText c t).toList, 0, 0⟩ = tokens c t := by
    simp [Cursor.ahead, tokenize_frameText names]
  obtain ⟨reads, fails⟩ := reads_frame c t ⟨tokenize (frameText c t).toList, 0, 0⟩ ahead
  rw [normalizeNewlines_of_absent noReturn, Module.parse, if_neg noNull]
  constructor
  · intro noKeyword
    obtain ⟨c', read, -⟩ := reads noKeyword
    simp only [read]
    rfl
  · intro keyword
    obtain ⟨stop, c', failed, -⟩ := fails keyword
    simp only [failed]
    exact ⟨_, rfl⟩

theorem frameStatements_of_parse {script : List Stmt}
    (parsed : Module.parse (normalizeNewlines (frameText c t).toList) false =
      .ok ⟨[importOfTemplate t.module, emptyClass c t]⟩) : frameStatements c t script =
      .ok [importOfTemplate t.module, pluginClassStatement c.name t.name t.receiver script] := by
  rw [frameStatements, parsed]
  rfl

theorem frameStatements_of_error (script : List Stmt) {e : ParseError}
    (failed : Module.parse (normalizeNewlines (frameText c t).toList) false = .error e) :
    ∃ e, frameStatements c t script = .error e := by
  rw [frameStatements, failed]
  cases e <;> exact ⟨_, rfl⟩

theorem frameStatements_of_ok (names : HasIdentifiers c t) {script frame : List Stmt}
    (read : frameStatements c t script = .ok frame) :
    frame = [importOfTemplate t.module, pluginClassStatement c.name t.name t.receiver script] := by
  obtain ⟨known, unknown⟩ := parse_frameText names
  by_cases noKeyword : HasNoKeyword c t
  · have parsed := known noKeyword
    split at parsed
    · obtain ⟨e, failed⟩ := frameStatements_of_error script parsed
      cases read.symm.trans failed
    · exact Except.ok.inj (read.symm.trans (frameStatements_of_parse parsed))
  · obtain ⟨e, parsed⟩ := unknown noKeyword
    obtain ⟨e, failed⟩ := frameStatements_of_error script parsed
    cases read.symm.trans failed

theorem names_of_isWritable (writable : isWritable c t = true) :
    HasIdentifiers c t ∧ HasNoKeyword c t ∧ (split '.' t.name).length ≤ maxNameParts := by
  simp only [isWritable, isDottedName, isName, Bool.and_eq_true, List.all_eq_true, Bool.not_eq_true',
    decide_eq_true_eq] at writable
  obtain ⟨⟨⟨⟨module, name⟩, base⟩, receiver⟩, few⟩ := writable
  exact ⟨⟨fun part member => (module part member).1, name.1, fun part member => (base part member).1,
    receiver.1⟩, ⟨fun part member => (module part member).2, name.2,
    fun part member => (base part member).2, receiver.2⟩, few⟩

theorem frameStatements_of_isWritable (writable : isWritable c t = true) (script : List Stmt) :
    frameStatements c t script =
      .ok [importOfTemplate t.module, pluginClassStatement c.name t.name t.receiver script] := by
  obtain ⟨names, noKeyword, few⟩ := names_of_isWritable writable
  have parsed := (parse_frameText names).1 noKeyword
  rw [isDeeperThan_frame few] at parsed
  exact frameStatements_of_parse parsed

end

end Frame

/-- The module that a script is compiled as is its future imports and the frame, read from its text, with
the rest of the script in it. -/
theorem assemble_eq (m : Module) (c : PluginClass) (t : Template) :
    assemble m c t = do
      let frame ← frameStatements c t (methodStatements m)
      if m.nodes.any (Node.isDeeperThan maxWalkDepth) then throw .tooDeep
      return ⟨futureImports m ++ frame⟩ := by
  rw [assemble]
  by_cases writable : isWritable c t = true
  · rw [if_pos writable, Frame.frameStatements_of_isWritable writable]
    rfl
  · rw [if_neg writable]

theorem assemble_ok {m result : Module} {c : PluginClass} {t : Template}
    (assembled : assemble m c t = .ok result) : ∃ frame,
      frameStatements c t (methodStatements m) = .ok frame ∧ result.body = futureImports m ++ frame := by
  rw [assemble_eq] at assembled
  cases read : frameStatements c t (methodStatements m) with
  | error e =>
    rw [read] at assembled
    exact nomatch assembled
  | ok frame =>
    rw [read] at assembled
    by_cases deep : m.nodes.any (Node.isDeeperThan maxWalkDepth) = true
    · exact nomatch (if_pos deep).symm.trans assembled
    · obtain rfl := Except.ok.inj ((if_neg deep).symm.trans assembled)
      exact ⟨frame, rfl, rfl⟩

end PluginBuild
