import PluginBuild.Proofs.Script.Lexemes

/-!
The tokens of lines. A line whose words and marks are scanned as they stand gives their tokens and one
for its end, with one in front if it is indented further than the line before; at the end of the text
every level is closed.
-/

namespace PluginBuild.Script.Lexer

/-- Characters that do not end the measuring of a line's indentation, or begin a line without tokens. -/
def isLineLead (c : Char) : Bool := [' ', '\t', '\x0c', '\\', '#', '\n'].contains c

/-- The scanner at the beginning of a line, outside brackets. -/
def State.atLine (rest : List Char) (line last : Nat) (indents : List (Nat × Nat))
    (tokens : List Token) : State :=
  ⟨rest, rest.length, line, 0, 0, last, true, indents, [], tokens.toArray⟩

theorem measureIndent_spaces {n fuel : Nat} {indent : Indent} {s : State} {c : Char} {rest : List Char}
    (ahead : s.rest = List.replicate n ' ' ++ c :: rest) (counted : s.left = s.rest.length)
    (enough : n < fuel) (solid : isLineLead c = false) :
    measureIndent fuel indent s = .inr
      ({ indent with width := indent.width + n, narrow := indent.narrow + n },
        s.past (List.replicate n ' ') (c :: rest)) := by
  induction n generalizing fuel indent s with
  | zero =>
    obtain ⟨fuel, rfl⟩ : ∃ k, fuel = k + 1 := ⟨fuel - 1, by omega⟩
    obtain ⟨_, left, line, column, chars, last, start, indents, brackets, tokens⟩ := s
    simp only [List.replicate_zero, List.nil_append] at ahead counted
    subst ahead counted
    simp only [isLineLead, List.contains_eq_mem, decide_eq_false_iff_not, List.mem_cons, not_or] at solid
    obtain ⟨space, tab, feed, backslash, -⟩ := solid
    simp [measureIndent, State.past, space, tab, feed, backslash]
  | succ n ih =>
    obtain ⟨fuel, rfl⟩ : ∃ k, fuel = k + 1 := ⟨fuel - 1, by omega⟩
    obtain ⟨_, left, line, column, chars, last, start, indents, brackets, tokens⟩ := s
    simp only [List.replicate_succ, List.cons_append] at ahead counted
    subst ahead counted
    rw [measureIndent]
    dsimp only
    rw [ih rfl rfl (by omega)]
    simp [State.skip, State.past, show ' '.utf8Size = 1 from rfl]
    omega

theorem run_of_scanLineStart {s next : State} (start : s.lineStart = true)
    (step : scanLineStart s = .more next) (less : next.remaining < s.remaining) : run s = run next := by
  rw [run, start, if_pos rfl, step]
  exact dif_pos less

theorem run_blank (more : List Char) (line last : Nat) (indents : List (Nat × Nat))
    (tokens : List Token) :
    run (.atLine ('\n' :: more) line last indents tokens) =
      run (.atLine more (line + 1) 1 indents tokens) := by
  refine run_of_scanLineStart rfl ?_ ?_
  · simp [scanLineStart, State.atLine, measureIndent, State.skipMany, State.skip]
  · simp only [State.remaining, State.atLine, List.length_cons, if_pos]
    omega

theorem scanLineStart_atLine {n line last : Nat} {c : Char} {rest : List Char}
    {indents : List (Nat × Nat)} {tokens : List Token} (solid : isLineLead c = false) :
    scanLineStart (.atLine (List.replicate n ' ' ++ c :: rest) line last indents tokens) =
      ((State.atLine (List.replicate n ' ' ++ c :: rest) line last indents tokens).past
        (List.replicate n ' ') (c :: rest)).indentTo n n := by
  let s : State := .atLine (List.replicate n ' ' ++ c :: rest) line last indents tokens
  have enough : n < s.left := by
    simp [s, State.atLine]
  have measured : measureIndent s.left ⟨0, 0, 0⟩ s = _ := measureIndent_spaces rfl rfl enough solid
  unfold scanLineStart
  rw [measured]
  simp only [isLineLead, List.contains_eq_mem, decide_eq_false_iff_not, List.mem_cons, not_or] at solid
  obtain ⟨-, -, -, -, comment, newline, -⟩ := solid
  simp [State.past, State.atLine, comment, newline, s]

def indentMark (kind : TokenKind) (line cursor : Nat) : Token := ⟨kind, "", line, none, cursor⟩

def newlineMark (line column : Nat) : Token := ⟨.newline, "\n", line, some column, column⟩

/-- The levels that are open behind indentation that closes none, and the tokens for it. -/
def openLevel (n line : Nat) (indents : List (Nat × Nat)) : List (Nat × Nat) × List Token :=
  if (indents.headD (0, 0)).1 < n then ((n, n) :: indents, [indentMark .indent line n])
  else (indents, [])

theorem indentTo_open {n w : Nat} {s : State} (top : s.indents.headD (0, 0) = (w, w))
    (noDedent : w ≤ n) (few : s.indents.length + 1 < maxIndents) (ahead : s.rest ≠ [])
    (column : s.column = n) : s.indentTo n n =
      .more { s with
        lineStart := false, indents := (openLevel n s.line s.indents).1
        tokens := s.tokens ++ (openLevel n s.line s.indents).2.toArray } := by
  have more : s.rest.isEmpty = false := List.isEmpty_eq_false_iff.mpr ahead
  unfold State.indentTo openLevel
  simp only [top, more]
  rcases Nat.lt_or_eq_of_le noDedent with deeper | rfl
  · simp only [if_neg (Nat.ne_of_gt deeper), if_pos deeper, if_neg (Nat.not_le_of_lt few),
      if_neg (Nat.not_le_of_lt deeper)]
    simp [indentMark, column]
  · simp

theorem run_line {n w line last : Nat} {ls : List Lexeme} {more : List Char}
    {indents : List (Nat × Nat)} {tokens : List Token} (spelled : Spelled 0 ls)
    (solid : isLineLead (headOf ls) = false) (top : indents.headD (0, 0) = (w, w)) (noDedent : w ≤ n)
    (few : indents.length + 1 < maxIndents) :
    run (.atLine (List.replicate n ' ' ++ (lineText ls ++ '\n' :: more)) line last indents tokens) =
      run (.atLine more (line + 1) (n + byteLength (lineText ls) + 1) (openLevel n line indents).1
        (tokens ++ (openLevel n line indents).2 ++ lineTokens line n ls ++
          [newlineMark line (n + byteLength (lineText ls))])) := by
  let text := lineText ls ++ '\n' :: more
  let s : State := .atLine (List.replicate n ' ' ++ text) line last indents tokens
  let s' : State := { s.past (List.replicate n ' ') text with
    lineStart := false, indents := (openLevel n line indents).1
    tokens := tokens.toArray ++ (openLevel n line indents).2.toArray }
  have column : (s.past (List.replicate n ' ') text).column = n := by
    simp [s, State.past, State.atLine]
  have step : scanLineStart s = .more s' := by
    obtain ⟨tail, follows⟩ := exists_headOf ls more
    have started : scanLineStart s = (s.past (List.replicate n ' ') text).indentTo n n := by
      simp only [s, text, follows]
      exact scanLineStart_atLine solid
    rw [started]
    exact indentTo_open top noDedent few (by simp [State.past, text]) column
  rw [show State.atLine _ line last indents tokens = s from rfl, run_of_scanLineStart rfl step]
  · rw [run_lexemes spelled (s := s') rfl rfl rfl rfl]
    simp [State.endOfLine, State.atLine, State.past, s', s, newlineMark]
  · simp only [State.remaining, State.past, State.atLine, List.length_append, List.length_replicate, s', s,
      if_true, Bool.false_eq_true, if_false]
    omega

theorem closeIndents_zero {indents : List (Nat × Nat)} (levels : ∀ level ∈ indents, 0 < level.1) :
    closeIndents 0 indents = ([], indents.length) := by
  induction indents with
  | nil => rfl
  | cons level outer ih =>
    have later := ih fun other member => levels other (List.mem_cons_of_mem level member)
    rw [closeIndents, if_pos (levels level List.mem_cons_self), later]
    rfl

theorem indentTo_end {s : State} (levels : ∀ level ∈ s.indents, 0 < level.1) (ended : s.rest = []) :
    s.indentTo 0 0 = .more { s with
      lineStart := false, indents := []
      tokens := s.tokens ++
        Array.replicate s.indents.length (indentMark .dedent s.lastLine s.lastCursor) } := by
  have closed := closeIndents_zero levels
  unfold State.indentTo
  cases same : s.indents with
  | nil => simp
  | cons level outer =>
    have positive := levels level (same ▸ List.mem_cons_self)
    rw [same] at closed
    simp [closed, ended, indentMark, Nat.ne_of_lt positive]

theorem run_end {line last : Nat} {indents : List (Nat × Nat)} {tokens : List Token}
    (levels : ∀ level ∈ indents, 0 < level.1) :
    run (.atLine [] (line + 2) last indents tokens) =
      ⟨(tokens ++ List.replicate indents.length (indentMark .dedent (line + 1) last) ++
        [indentMark .finish (line + 1) last]).toArray, .complete⟩ := by
  let s : State := .atLine [] (line + 2) last indents tokens
  have step : scanLineStart s = s.indentTo 0 0 := by
    simp [s, scanLineStart, State.atLine, measureIndent]
  rw [run_of_scanLineStart rfl (step.trans (indentTo_end levels rfl))]
  · rw [run, if_neg Bool.false_ne_true]
    simp [scanToken, State.skipMany, State.finish, State.atLine, State.lastLine, State.lastCursor,
      indentMark, s]
  · simp [State.remaining, State.atLine, s]

end PluginBuild.Script.Lexer
