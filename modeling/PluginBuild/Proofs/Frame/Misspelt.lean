import PluginBuild.Proofs.Frame.Statements
import PluginBuild.Proofs.Script.Origins.Stmt

/-!
The frame for a class name that is no identifier. A name made of the characters that the scanner takes for
those of a name is scanned as one word; where it is no identifier, the scanner stops there, before the end
of the frame, and no tree is read.
-/

namespace PluginBuild

open PluginBuild.Script PluginBuild.Script.Lexer PluginBuild.Text

namespace Script.Lexer

/-- A text that is scanned as one word, be it an identifier or not. -/
structure IsWordText (text : String) : Prop where
  starts : ∃ c rest, text.toList = c :: rest ∧ beginsName c = true
  goesOn : ∀ c ∈ text.toList, continuesName c = true

theorem above_slash_of_continuesName {c : Char} (continues : continuesName c = true) : 0x2F < c.toNat := by
  have code : c.val.toNat = c.toNat := rfl
  delta continuesName beginsName Char.isAlpha Char.isUpper Char.isLower at continues
  simp only [Char.isDigit, Bool.or_eq_true, Bool.and_eq_true, decide_eq_true_eq, beq_iff_eq, ge_iff_le,
    UInt32.le_iff_toNat_le, Char.reduceVal, UInt32.reduceToNat, code] at continues
  rcases continues with (((letter | letter) | rfl) | wide) | digit
  · omega
  · omega
  · decide
  · omega
  · omega

theorem IsWordText.isPlain {text : String} (word : IsWordText text) : IsPlain text.toList :=
  fun c member => above_slash_of_continuesName (word.goesOn c member)

theorem parts_of_badCharacter? {n : Nat} {rest : List Char} (good : badCharacter? (n + 1) rest = none) :
    ∀ c ∈ rest, isIdentifierPart c = true := by
  induction rest generalizing n with
  | nil =>
    intro c member
    cases member
  | cons c rest ih =>
    rw [badCharacter?] at good
    split at good
    · rename_i part
      intro d member
      rcases List.mem_cons.mp member with rfl | later
      · exact part
      · exact ih good d later
    · cases good

theorem isIdentifier_of_badCharacter? {text : String} (nonempty : text.toList ≠ [])
    (good : badCharacter? 0 text.toList = none) : isIdentifier text = true := by
  obtain ⟨c, rest, same⟩ := List.exists_cons_of_ne_nil nonempty
  rw [same, badCharacter?] at good
  split at good
  · rename_i start
    unfold isIdentifier
    rw [same]
    exact Bool.and_eq_true_iff.mpr ⟨start, List.all_eq_true.mpr (parts_of_badCharacter? good)⟩
  · cases good

theorem scanToken_misspelt {s : State} {gap : Nat} {text : String} {next : Char} {more : List Char}
    (word : IsWordText text) (bad : isIdentifier text = false) (ends : continuesName next = false)
    (unquoted : next ≠ '\'' ∧ next ≠ '"')
    (ahead : s.rest = List.replicate gap ' ' ++ (text.toList ++ next :: more))
    (counted : s.left = s.rest.length) :
    ∃ e line column, scanToken s = .done s.tokens (.misspelt e line column) := by
  obtain ⟨c, rest, same, begins⟩ := word.starts
  have above : 0x2F < c.toNat := word.isPlain c (same ▸ List.mem_cons_self)
  have solid := isSpace_of_above_slash above
  have noString : stringPrefix? (text.toList ++ next :: more) = none :=
    stringPrefix?_of_isPlain word.isPlain ends unquoted
  let s' := s.past (List.replicate gap ' ') (text.toList ++ next :: more)
  have ahead' : s'.rest = c :: (rest ++ next :: more) := congrArg (· ++ next :: more) same
  have parted : s.rest = List.replicate gap ' ' ++ s'.rest := ahead
  rw [ahead'] at parted
  rw [scanToken_gap parted counted solid, ← ahead']
  show ∃ e line column, scanToken s' = _
  rw [scanToken_solid ahead' solid (ne_of_above_slash above (by decide)) (ne_of_above_slash above (by decide))
    noString, if_pos begins]
  have whole : s'.rest.takeWhile continuesName = text.toList := by
    rw [show s'.rest = text.toList ++ next :: more from rfl, List.takeWhile_append_of_pos word.goesOn,
      List.takeWhile_cons, ends]
    simp
  unfold scanName
  dsimp only
  rw [whole]
  cases found : badCharacter? 0 text.toList with
  | none =>
    have nonempty : text.toList ≠ [] := same ▸ List.cons_ne_nil c rest
    exact nomatch bad.symm.trans (isIdentifier_of_badCharacter? nonempty found)
  | some place => exact ⟨_, _, _, rfl⟩

theorem run_of_done {s : State} {tokens : Array Token} {ending : Ending} (within : s.lineStart = false)
    (stops : scanToken s = .done tokens ending) : run s = ⟨tokens, ending⟩ := by
  rw [run, within, if_neg Bool.false_ne_true, stops]

theorem run_misspelt {first text : String} {c next : Char} {rest more : List Char} {line last : Nat}
    {tokens : List Token} (begins : first.toList = c :: rest) (solid : isLineLead c = false)
    (identifier : isIdentifier first = true) (word : IsWordText text) (bad : isIdentifier text = false)
    (ends : continuesName next = false) (unquoted : next ≠ '\'' ∧ next ≠ '"') :
    ∃ e l column, run (.atLine (first.toList ++ ' ' :: (text.toList ++ next :: more)) line last [] tokens) =
      ⟨(tokens ++ [(Lexeme.word 0 first).token line 0]).toArray, .misspelt e l column⟩ := by
  let after := ' ' :: (text.toList ++ next :: more)
  let s : State := .atLine (first.toList ++ after) line last [] tokens
  let s₁ : State := { s.past [] (first.toList ++ after) with lineStart := false }
  let s₂ : State := s₁.behind (.word 0 first) after
  have started : scanLineStart s = .more s₁ := by
    have measured : scanLineStart (.atLine (List.replicate 0 ' ' ++ c :: (rest ++ after)) line last [] tokens) =
        ((State.atLine (List.replicate 0 ' ' ++ c :: (rest ++ after)) line last [] tokens).past
          (List.replicate 0 ' ') (c :: (rest ++ after))).indentTo 0 0 := scanLineStart_atLine solid
    rw [← List.cons_append, ← begins] at measured
    refine measured.trans ((indentTo_open (w := 0) rfl (Nat.le_refl 0) ?_ ?_ rfl).trans ?_)
    · exact (by decide : 0 + 1 < maxIndents)
    · simp [State.past, begins]
    · simp [s₁, s, openLevel, State.past, State.atLine]
  have read : scanToken s₁ = .more s₂ :=
    scanToken_word identifier (by decide) (by decide) rfl rfl
  have ahead : s₂.rest = List.replicate 1 ' ' ++ (text.toList ++ next :: more) := rfl
  obtain ⟨e, l, column, stops⟩ := scanToken_misspelt word bad ends unquoted ahead rfl
  refine ⟨e, l, column, ?_⟩
  rw [show State.atLine _ line last [] tokens = s from rfl, run_of_scanLineStart rfl started,
    run_of_scanToken rfl read, run_of_done rfl stops]
  · simp [s₂, s₁, s, State.behind, State.past, State.atLine]
  · simp only [s₂, s₁, State.remaining, State.behind, State.past, begins, List.length_append, List.length_cons]
    omega
  · simp [s₁, s, State.remaining, State.past, State.atLine]

theorem kind_of_spelled {depth line column : Nat} {ls : List Lexeme} (spelled : Spelled depth ls) :
    ∀ t ∈ lineTokens line column ls, t.kind ≠ .finish := by
  have other {l : Lexeme} {rest : List Lexeme} (kind : l.kind ≠ .finish)
      (later : ∀ column, ∀ t ∈ lineTokens line column rest, t.kind ≠ .finish) (column : Nat) :
      ∀ t ∈ lineTokens line column (l :: rest), t.kind ≠ .finish := by
    intro t member
    rcases List.mem_cons.mp member with rfl | member
    · exact kind
    · exact later _ t member
  have words (gap : Nat) (text : String) : (Lexeme.word gap text).kind ≠ .finish := by
    show (if isKeyword text then TokenKind.keyword else TokenKind.name) ≠ .finish
    split <;> decide
  suffices all : ∀ column, ∀ t ∈ lineTokens line column ls, t.kind ≠ .finish from all column
  induction spelled with
  | done => exact fun _ t member => nomatch member
  | word _ _ _ ih => exact other (words _ _) ih
  | mark _ _ _ _ _ ih | stars _ _ ih | opening _ _ ih | closing _ ih => exact other nofun ih

end Script.Lexer

namespace Frame

variable {c : PluginClass} {t : Template}

theorem above_control_classLine {name : String} {base : List String} (word : IsWordText name)
    (identifiers : ∀ part ∈ base, isIdentifier part = true) :
    ∀ d ∈ lineText (classLine name base), 0x1F < d.toNat := by
  have close : Spelled 1 [.mark 0 ")", .mark 0 ":"] :=
    .closing (.mark (c := ':') rfl (by decide) (by decide) (by decide) .done)
  obtain ⟨spelled, ends⟩ := spelled_furtherParts identifiers (by decide) close
  have opened : Spelled 0 (.mark 0 "(" :: .word 0 templateAlias :: (furtherParts base ++
      [.mark 0 ")", .mark 0 ":"])) := .opening (by decide) (.word (by decide) ends spelled)
  have behind := above_control_of_spelled opened
  refine above_control_cons (by simp [Lexeme.word]) (above_control_cons (fun d member => ?_) behind)
  exact Nat.lt_trans (by decide) (word.isPlain d member)

theorem tokenize_misspelt (module : ∀ part ∈ split '.' t.module, isIdentifier part = true)
    (word : IsWordText c.name) (bad : isIdentifier c.name = false) :
    ∃ e line column tokens, tokenize (frameText c t).toList = ⟨tokens, .misspelt e line column⟩ ∧
      ∀ token ∈ tokens, token.kind ≠ .finish := by
  have ended : endLastLine (frameText c t).toList = (frameText c t).toList := by
    refine if_pos ?_
    rw [frameText_toList]
    simp [List.getLast?_append, List.getLast?_cons]
  have imports := spelled_importLine (split_ne_nil '.' t.module) module
  obtain ⟨tail, text⟩ : ∃ tail, (frameText c t).toList = lineText (importLine (split '.' t.module)) ++
      '\n' :: '\n' :: '\n' :: ("class".toList ++ ' ' :: (c.name.toList ++ '(' :: tail)) := by
    have classes (more : List Char) : lineText (classLine c.name (split '.' t.name)) ++ more =
        "class".toList ++ ' ' :: (c.name.toList ++ '(' ::
          (lineText (.word 0 templateAlias :: (furtherParts (split '.' t.name) ++
            [.mark 0 ")", .mark 0 ":"])) ++ more)) := by
      simp [classLine, lineText_cons, Lexeme.chars, Lexeme.word, Lexeme.mark]
    exact ⟨_, by rw [frameText_toList, classes]⟩
  -- The scanner gets to the line of the class as it does for an identifier, and behind its first word.
  let opened := wholeLine 1 0 (importLine (split '.' t.module))
  have reached : tokenize (frameText c t).toList =
      run (.atLine ("class".toList ++ ' ' :: (c.name.toList ++ '(' :: tail)) 4 1 [] opened) := by
    rw [tokenize, ended, text]
    refine (run_line (n := 0) (w := 0) imports rfl rfl (Nat.le_refl 0) (by decide)).trans ?_
    exact (run_blank _ _ _ _ _).trans (run_blank _ _ _ _ _)
  have misspelt : ∃ e line column,
      run (.atLine ("class".toList ++ ' ' :: (c.name.toList ++ '(' :: tail)) 4 1 [] opened) =
        ⟨(opened ++ [(Lexeme.word 0 "class").token 4 0]).toArray, .misspelt e line column⟩ :=
    run_misspelt rfl rfl (by decide) word bad (by decide) (by decide)
  obtain ⟨e, line, column, stopped⟩ := misspelt
  refine ⟨e, line, column, _, reached.trans stopped, fun token member => ?_⟩
  simp only [opened, wholeLine, List.mem_toArray, List.mem_append, List.mem_singleton] at member
  rcases member with (spelled | rfl) | rfl
  · exact kind_of_spelled imports token spelled
  · intro finish
    cases finish
  · decide

theorem frameStatements_misspelt (module : ∀ part ∈ split '.' t.module, isIdentifier part = true)
    (base : ∀ part ∈ split '.' t.name, isIdentifier part = true) (receiver : isIdentifier t.receiver = true)
    (word : IsWordText c.name) (bad : isIdentifier c.name = false) (script : List Stmt) :
    ∃ e, frameStatements c t script = .error e := by
  have classes := above_control_classLine word base
  have noReturn : '\r' ∉ (frameText c t).toList :=
    frameText_absent module classes receiver (by decide) (by decide)
  obtain ⟨e, line, column, tokens, scanned, none⟩ := tokenize_misspelt module word bad
  have unread : ∃ e, Module.parse (normalizeNewlines (frameText c t).toList) false = .error e := by
    rw [normalizeNewlines_of_absent noReturn, Module.parse]
    split
    · exact ⟨_, rfl⟩
    · dsimp only
      rw [scanned]
      cases read : moduleRule ⟨⟨tokens, .misspelt e line column⟩, 0, 0⟩ with
      | error stop cursor => exact ⟨_, rfl⟩
      | ok m cursor =>
        obtain ⟨token, member, finish⟩ := finish_of_moduleRule read
        exact absurd finish (none token member)
  obtain ⟨e, failed⟩ := unread
  exact frameStatements_of_error script failed

end Frame
end PluginBuild
