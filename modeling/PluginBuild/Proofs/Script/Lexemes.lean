import PluginBuild.Script.Lexer
import PluginBuild.Proofs.Text.NameCharacters

/-!
The tokens of a text that is written as words and marks. A word ends where no name goes on, a mark
where no longer operator does; what is spelled like that is scanned into the tokens that it is made
of, each at its place.
-/

namespace PluginBuild.Script.Lexer

open PluginBuild.Text

def byteLength : List Char → Nat
  | [] => 0
  | c :: rest => c.utf8Size + byteLength rest

@[simp] theorem byteLength_nil : byteLength [] = 0 := rfl

@[simp] theorem byteLength_cons (c : Char) (rest : List Char) :
    byteLength (c :: rest) = c.utf8Size + byteLength rest := rfl

@[simp] theorem byteLength_append (first second : List Char) :
    byteLength (first ++ second) = byteLength first + byteLength second := by
  induction first with
  | nil => simp
  | cons c first ih => simp [ih, Nat.add_assoc]

@[simp] theorem byteLength_replicate_space (n : Nat) : byteLength (List.replicate n ' ') = n := by
  induction n with
  | zero => rfl
  | succ n ih => rw [List.replicate_succ, byteLength_cons, ih, show ' '.utf8Size = 1 from rfl, Nat.add_comm]

@[simp] theorem byteLength_toList (s : String) : byteLength s.toList = s.utf8ByteSize := by
  obtain ⟨text, rfl⟩ : ∃ text, s = String.ofList text := ⟨s.toList, String.ofList_toList.symm⟩
  rw [String.toList_ofList]
  induction text with
  | nil => rfl
  | cons c rest ih => simp [ih]

/-- A state behind a text without line ends. -/
def State.past (s : State) (text rest : List Char) : State :=
  { s with
    rest, left := rest.length, column := s.column + byteLength text, chars := s.chars + text.length }

theorem skipMany_of_append {s : State} {text rest : List Char} (ahead : s.rest = text ++ rest)
    (counted : s.left = s.rest.length) (oneLine : '\n' ∉ text) :
    s.skipMany text.length = s.past text rest := by
  induction text generalizing s with
  | nil =>
    obtain ⟨_, left, line, column, chars, last, start, indents, brackets, tokens⟩ := s
    simp only at ahead counted
    subst ahead counted
    rfl
  | cons c text ih =>
    have skipped : s.skip = s.past [c] (text ++ rest) := by
      have inLine : c ≠ '\n' := fun same => oneLine (same ▸ List.mem_cons_self)
      obtain ⟨_, left, line, column, chars, last, start, indents, brackets, tokens⟩ := s
      simp only at ahead counted
      subst ahead counted
      simp [State.skip, State.past]
    rw [List.length_cons, State.skipMany, skipped]
    rw [ih rfl rfl fun member => oneLine (List.mem_cons_of_mem c member)]
    simp only [State.past, byteLength_cons, byteLength_nil, List.length_cons, List.length_nil]
    congr 1 <;> omega

/-- A word or a mark with the spaces in front of it. -/
structure Lexeme where
  gap : Nat
  kind : TokenKind
  text : String

namespace Lexeme

def chars (l : Lexeme) : List Char := List.replicate l.gap ' ' ++ l.text.toList

def token (line column : Nat) (l : Lexeme) : Token :=
  ⟨l.kind, l.text, line, some (column + l.gap), column + l.gap + l.text.utf8ByteSize⟩

def brackets (line column : Nat) (l : Lexeme) (before : List Bracket) : List Bracket :=
  if l.text = "(" then ⟨'(', line, column + l.gap⟩ :: before
  else if l.text = ")" then before.tail
  else before

def word (gap : Nat) (text : String) : Lexeme :=
  ⟨gap, if isKeyword text then .keyword else .name, text⟩

def mark (gap : Nat) (text : String) : Lexeme := ⟨gap, .op, text⟩

end Lexeme

def lineText (ls : List Lexeme) : List Char := ls.flatMap Lexeme.chars

/-- The tokens of lexemes that stand next to each other, behind so many bytes of a line. -/
def lineTokens (line : Nat) : (column : Nat) → List Lexeme → List Token
  | _, [] => []
  | column, l :: ls =>
    l.token line column :: lineTokens line (column + l.gap + l.text.utf8ByteSize) ls

theorem lineText_cons (l : Lexeme) (ls : List Lexeme) : lineText (l :: ls) = l.chars ++ lineText ls := rfl

theorem lineText_append (ls more : List Lexeme) :
    lineText (ls ++ more) = lineText ls ++ lineText more := by
  simp [lineText]

theorem lineTokens_append (line column : Nat) (ls more : List Lexeme) :
    lineTokens line column (ls ++ more) =
      lineTokens line column ls ++ lineTokens line (column + byteLength (lineText ls)) more := by
  induction ls generalizing column with
  | nil => simp [lineTokens, lineText]
  | cons l ls ih =>
    rw [List.cons_append, lineTokens, lineTokens, ih]
    simp [lineText_cons, Lexeme.chars, Nat.add_assoc]

def headOf (ls : List Lexeme) : Char := (lineText ls).headD '\n'

/-- Characters that stand for themselves where no longer operator begins. -/
def plainMarks : List Char := ['.', ',', ':', '=', '*']

def beginsLonger (c next : Char) : Bool := longOperators.any fun op => op.toList.take 2 == [c, next]

def endsWord (c : Char) : Bool := !continuesName c && c != '\'' && c != '"'

/-- Lexemes that are scanned as they stand when so many brackets are open before them: none goes on
into the next one. -/
inductive Spelled : (depth : Nat) → List Lexeme → Prop where
  | done : Spelled 0 []
  | word {gap depth : Nat} {text : String} {rest : List Lexeme} (identifier : isIdentifier text = true)
      (ends : endsWord (headOf rest) = true) (more : Spelled depth rest) :
      Spelled depth (.word gap text :: rest)
  | mark {gap depth : Nat} {text : String} {c : Char} {rest : List Lexeme}
      (single : text = String.singleton c) (plain : c ∈ plainMarks)
      (ends : beginsLonger c (headOf rest) = false) (noNumber : (headOf rest).isDigit = false)
      (more : Spelled depth rest) : Spelled depth (.mark gap text :: rest)
  | stars {gap depth : Nat} {rest : List Lexeme} (ends : headOf rest ≠ '=')
      (more : Spelled depth rest) : Spelled depth (.mark gap "**" :: rest)
  | opening {gap depth : Nat} {rest : List Lexeme} (few : depth < maxBrackets)
      (more : Spelled (depth + 1) rest) : Spelled depth (.mark gap "(" :: rest)
  | closing {gap depth : Nat} {rest : List Lexeme} (more : Spelled depth rest) :
      Spelled (depth + 1) (.mark gap ")" :: rest)

def State.behind (s : State) (l : Lexeme) (rest : List Char) : State :=
  { s.past l.chars rest with
    tokens := s.tokens.push (l.token s.line s.column)
    brackets := l.brackets s.line s.column s.brackets }

theorem emit_of_append {s : State} {text : String} {rest : List Char} (kind : TokenKind)
    (ahead : s.rest = text.toList ++ rest) (counted : s.left = s.rest.length)
    (oneLine : '\n' ∉ text.toList) : s.emit kind text.length =
      .more { s.past text.toList rest with
        tokens := s.tokens.push
          ⟨kind, text, s.line, some s.column, s.column + text.utf8ByteSize⟩ } := by
  have skipped := skipMany_of_append ahead counted oneLine
  rw [String.length_toList] at skipped
  have taken : String.ofList (s.rest.take text.length) = text := by
    rw [ahead, ← String.length_toList, List.take_left, String.ofList_toList]
  simp only [State.emit, skipped, taken]
  simp [State.past]

theorem emit_behind {s s' : State} {l : Lexeme} {rest : List Char} {count : Nat}
    (moved : s' = { s.past (List.replicate l.gap ' ') (l.text.toList ++ rest) with
      brackets := l.brackets s.line s.column s.brackets })
    (whole : count = l.text.length) (oneLine : '\n' ∉ l.text.toList) :
    s'.emit l.kind count = .more (s.behind l rest) := by
  subst moved whole
  rw [emit_of_append l.kind rfl rfl oneLine]
  simp [State.behind, State.past, Lexeme.chars, Lexeme.token, Nat.add_assoc]

theorem scanToken_gap {s : State} {gap : Nat} {c : Char} {rest : List Char}
    (ahead : s.rest = List.replicate gap ' ' ++ c :: rest) (counted : s.left = s.rest.length)
    (solid : isSpace c = false) :
    scanToken s = scanToken (s.past (List.replicate gap ' ') (c :: rest)) := by
  have noEnd : '\n' ∉ List.replicate gap ' ' := by
    intro member
    exact absurd (List.eq_of_mem_replicate member) (by decide)
  have skipped := skipMany_of_append ahead counted noEnd
  have spaces : s.rest.takeWhile isSpace = List.replicate gap ' ' := by
    rw [ahead, List.takeWhile_append_of_pos, List.takeWhile_cons, solid]
    · simp
    · intro space member
      rw [List.eq_of_mem_replicate member]
      rfl
  have none : ((s.past (List.replicate gap ' ') (c :: rest)).rest.takeWhile isSpace) = [] := by
    simp [State.past, solid]
  rw [scanToken, spaces, skipped, scanToken, none]
  rfl

theorem stringPrefix?_eq_none {text : List Char}
    (unquoted : ∀ c ∈ (text.dropWhile Char.isAlpha).head?, c ≠ '\'' ∧ c ≠ '"') :
    stringPrefix? text = none := by
  unfold stringPrefix?
  have rest : text.drop ((text.takeWhile Char.isAlpha).map Char.toLower).length =
      text.dropWhile Char.isAlpha := by
    have whole := text.takeWhile_append_dropWhile (p := Char.isAlpha)
    calc text.drop ((text.takeWhile Char.isAlpha).map Char.toLower).length
        = (text.takeWhile Char.isAlpha ++ text.dropWhile Char.isAlpha).drop
            (text.takeWhile Char.isAlpha).length := by rw [List.length_map, whole]
      _ = text.dropWhile Char.isAlpha := List.drop_left
  dsimp only
  rw [rest]
  cases same : text.dropWhile Char.isAlpha with
  | nil => rfl
  | cons c after =>
    rw [same] at unquoted
    obtain ⟨single, double⟩ := unquoted c rfl
    simp [single, double]

theorem continuesName_of_isIdentifierPart {c : Char} (part : isIdentifierPart c = true) :
    continuesName c = true := by
  unfold isIdentifierPart at part
  unfold continuesName beginsName
  split at part
  · simp only [Char.isAlphanum, Bool.or_eq_true, beq_iff_eq] at part ⊢
    rcases part with (letter | digit) | underscore
    · exact .inl (.inl (.inl letter))
    · exact .inr digit
    · exact .inl (.inl (.inr underscore))
  · simp
    omega

theorem beginsName_of_isIdentifierStart {c : Char} (start : isIdentifierStart c = true) :
    beginsName c = true := by
  unfold isIdentifierStart at start
  unfold beginsName
  split at start
  · simp only [Bool.or_eq_true, beq_iff_eq] at start ⊢
    exact .inl start
  · simp
    omega

theorem exists_of_isIdentifier {text : String} (identifier : isIdentifier text = true) :
    ∃ c rest, text.toList = c :: rest ∧ isIdentifierStart c = true ∧
      ∀ d ∈ rest, isIdentifierPart d = true := by
  unfold isIdentifier at identifier
  split at identifier
  · cases identifier
  · rename_i c rest same
    rw [Bool.and_eq_true, List.all_eq_true] at identifier
    exact ⟨c, rest, same, identifier.1, identifier.2⟩

theorem badCharacter?_parts {n : Nat} {rest : List Char} (positive : 0 < n)
    (parts : ∀ d ∈ rest, isIdentifierPart d = true) : badCharacter? n rest = none := by
  induction rest generalizing n with
  | nil => cases n <;> rfl
  | cons d rest ih =>
    obtain ⟨n, rfl⟩ : ∃ k, n = k + 1 := ⟨n - 1, by omega⟩
    rw [badCharacter?, if_pos (parts d List.mem_cons_self)]
    exact ih (Nat.succ_pos _) fun e member => parts e (List.mem_cons_of_mem d member)

theorem Lexeme.brackets_of_identifier {text : String} (identifier : isIdentifier text = true)
    {gap line column : Nat} {before : List Bracket} :
    (Lexeme.word gap text).brackets line column before = before := by
  have noOpening : text ≠ "(" := by
    rintro rfl
    exact absurd identifier (by decide)
  have noClosing : text ≠ ")" := by
    rintro rfl
    exact absurd identifier (by decide)
  simp [Lexeme.brackets, Lexeme.word, noOpening, noClosing]

theorem ne_of_above_slash {c d : Char} (above : 0x2F < c.toNat) (below : d.toNat ≤ 0x2F) : c ≠ d := by
  rintro rfl
  omega

/-- A token that is neither a string nor the end of a line is told by its first character. -/
theorem scanToken_solid {s : State} {c : Char} {after : List Char} (ahead : s.rest = c :: after)
    (solid : isSpace c = false) (noComment : c ≠ '#') (noEnd : c ≠ '\n')
    (noString : stringPrefix? s.rest = none) :
    scanToken s =
      if beginsName c then scanName s
      else if c.isDigit then scanNumber s
      else if c = '.' ∧ (after.head?.map Char.isDigit).getD false then s.fraction 1 after
      else if c = '\\' then
        match s.joinLine with
        | .inl stop => stop
        | .inr next => .more next
      else scanOperator s c := by
  have none : s.rest.takeWhile isSpace = [] := by
    rw [ahead, List.takeWhile_cons, solid]
    rfl
  unfold scanToken
  rw [none]
  simp only [List.length_nil, State.skipMany, ahead, if_neg noComment, if_neg noEnd]
  rw [← ahead]
  generalize stringPrefix? s.rest = quoted at noString ⊢
  subst noString
  rfl

theorem scanName_of_identifier {s : State} {text : String} {next : Char} {more : List Char}
    (identifier : isIdentifier text = true) (ends : continuesName next = false)
    (ahead : s.rest = text.toList ++ next :: more) :
    scanName s = s.emit (if isKeyword text then .keyword else .name) text.length := by
  obtain ⟨c, rest, same, start, parts⟩ := exists_of_isIdentifier identifier
  have word : s.rest.takeWhile continuesName = text.toList := by
    rw [ahead, List.takeWhile_append_of_pos, List.takeWhile_cons, ends]
    · simp
    · intro d member
      rw [same] at member
      rcases List.mem_cons.mp member with rfl | later
      · rw [continuesName, beginsName_of_isIdentifierStart start, Bool.true_or]
      · exact continuesName_of_isIdentifierPart (parts d later)
  have good : badCharacter? 0 text.toList = none := by
    rw [same, badCharacter?, if_pos start]
    exact badCharacter?_parts Nat.one_pos parts
  unfold scanName
  dsimp only
  rw [word, good, String.ofList_toList, String.length_toList]

theorem isSpace_of_above_slash {c : Char} (above : 0x2F < c.toNat) : isSpace c = false := by
  have blank := ne_of_above_slash above (d := ' ') (by decide)
  have tab := ne_of_above_slash above (d := '\t') (by decide)
  have feed := ne_of_above_slash above (d := '\x0c') (by decide)
  simp [isSpace, blank, tab, feed]

theorem stringPrefix?_of_isPlain {text : List Char} {next : Char} {more : List Char}
    (plain : IsPlain text) (ends : continuesName next = false)
    (unquoted : next ≠ '\'' ∧ next ≠ '"') : stringPrefix? (text ++ next :: more) = none := by
  have noLetter : next.isAlpha = false := by
    unfold continuesName beginsName at ends
    simp only [Bool.or_eq_false_iff] at ends
    exact ends.1.1.1
  refine stringPrefix?_eq_none fun c first => ?_
  -- Behind the letters comes what ends the name if it has letters alone, else one of its characters.
  rw [List.dropWhile_append] at first
  split at first
  · rw [List.dropWhile_cons, noLetter] at first
    obtain rfl : next = c := by simpa using first
    exact unquoted
  · have inText : c ∈ text := by
      rename_i nonempty
      rw [List.isEmpty_iff] at nonempty
      rw [List.head?_append, List.head?_eq_some_head nonempty] at first
      obtain rfl := Option.some.inj first
      exact (List.dropWhile_suffix _).mem (List.head_mem nonempty)
    exact ⟨ne_of_above_slash (plain c inText) (by decide), ne_of_above_slash (plain c inText) (by decide)⟩

theorem scanToken_word {s : State} {gap : Nat} {text : String} {next : Char} {more : List Char}
    (identifier : isIdentifier text = true) (ends : continuesName next = false)
    (unquoted : next ≠ '\'' ∧ next ≠ '"')
    (ahead : s.rest = (Lexeme.word gap text).chars ++ next :: more)
    (counted : s.left = s.rest.length) :
    scanToken s = .more (s.behind (.word gap text) (next :: more)) := by
  obtain ⟨c, rest, same, start, -⟩ := exists_of_isIdentifier identifier
  have above := above_slash_of_isIdentifierStart start
  have plain := (isPlain_of_isIdentifier identifier).1
  have solid := isSpace_of_above_slash above
  let s' := s.past (List.replicate gap ' ') (text.toList ++ next :: more)
  have ahead' : s'.rest = c :: (rest ++ next :: more) := congrArg (· ++ next :: more) same
  have parted : s.rest = List.replicate gap ' ' ++ s'.rest := ahead.trans (List.append_assoc _ _ _)
  rw [ahead'] at parted
  rw [scanToken_gap parted counted solid, ← ahead']
  show scanToken s' = _
  rw [scanToken_solid ahead' solid (ne_of_above_slash above (by decide))
    (ne_of_above_slash above (by decide)) (stringPrefix?_of_isPlain plain ends unquoted)]
  rw [if_pos (beginsName_of_isIdentifierStart start), scanName_of_identifier identifier ends rfl]
  refine emit_behind (l := .word gap text) ?_ rfl (plain.absent (by decide))
  rw [Lexeme.brackets_of_identifier identifier]
  rfl

theorem mark_facts {c : Char} (mark : c ∈ '(' :: ')' :: plainMarks) :
    isSpace c = false ∧ c ≠ '#' ∧ c ≠ '\n' ∧ (c.isAlpha = false ∧ c ≠ '\'' ∧ c ≠ '"') ∧
      beginsName c = false ∧ c.isDigit = false ∧ c ≠ '\\' := by
  simp only [plainMarks, List.mem_cons, List.not_mem_nil, or_false] at mark
  rcases mark with rfl | rfl | rfl | rfl | rfl | rfl | rfl <;> decide

theorem scanToken_mark {s : State} {gap : Nat} {c next : Char} {more : List Char}
    (mark : c ∈ '(' :: ')' :: plainMarks) (noNumber : c = '.' → next.isDigit = false)
    (ahead : s.rest = List.replicate gap ' ' ++ c :: next :: more)
    (counted : s.left = s.rest.length) :
    scanToken s = scanOperator (s.past (List.replicate gap ' ') (c :: next :: more)) c := by
  obtain ⟨solid, noComment, noEnd, unquoted, noName, noDigit, noJoin⟩ := mark_facts mark
  have noString : stringPrefix? (c :: next :: more) = none := by
    refine stringPrefix?_eq_none fun d first => ?_
    rw [List.dropWhile_cons, unquoted.1] at first
    obtain rfl : c = d := by simpa using first
    exact unquoted.2
  have noFraction : ¬ (c = '.' ∧ ((next :: more).head?.map Char.isDigit).getD false = true) := by
    rintro ⟨point, digit⟩
    exact Bool.false_ne_true ((noNumber point).symm.trans digit)
  rw [scanToken_gap ahead counted solid, scanToken_solid rfl solid noComment noEnd noString,
    noName, noDigit, if_neg Bool.false_ne_true, if_neg Bool.false_ne_true, if_neg noFraction,
    if_neg noJoin]

theorem no_longer_operator {c next : Char} {more : List Char} (ends : beginsLonger c next = false) :
    (longOperators.find? fun op => (c :: next :: more).take op.length == op.toList) = none := by
  have long : ∀ op ∈ longOperators, 2 ≤ op.length := by decide
  refine List.find?_eq_none.mpr fun op member same => ?_
  rw [beq_iff_eq] at same
  have begins : op.toList.take 2 = [c, next] := by
    rw [← same, List.take_take, Nat.min_eq_left (long op member)]
    rfl
  have found : beginsLonger c next = true :=
    List.any_eq_true.mpr ⟨op, member, beq_iff_eq.mpr begins⟩
  exact Bool.false_ne_true (ends.symm.trans found)

theorem beginsLonger_bracket {c : Char} (bracket : c = '(' ∨ c = ')') (next : Char) :
    beginsLonger c next = false := by
  have other : ∀ op ∈ longOperators, op.toList.head? ≠ some '(' ∧ op.toList.head? ≠ some ')' := by
    decide
  refine List.any_eq_false.mpr fun op member same => ?_
  rw [beq_iff_eq] at same
  have first : op.toList.head? = some c := by
    have taken := congrArg List.head? same
    rwa [List.head?_take, if_neg (by decide)] at taken
  rcases bracket with rfl | rfl
  · exact (other op member).1 first
  · exact (other op member).2 first

theorem plainMark_facts {c : Char} (plain : c ∈ plainMarks) :
    ¬ (c = '(' ∨ c = '[' ∨ c = '\x7b') ∧ ¬ (c = ')' ∨ c = ']' ∨ c = '\x7d') ∧ isPrintable c = true ∧
      '\n' ∉ [c] ∧ String.singleton c ≠ "(" ∧ String.singleton c ≠ ")" := by
  simp only [plainMarks, List.mem_cons, List.not_mem_nil, or_false] at plain
  rcases plain with rfl | rfl | rfl | rfl | rfl <;> decide

theorem scanToken_plainMark {s : State} {gap : Nat} {c next : Char} {more : List Char}
    (mark : c ∈ plainMarks) (ends : beginsLonger c next = false) (noNumber : next.isDigit = false)
    (ahead : s.rest = (Lexeme.mark gap (String.singleton c)).chars ++ next :: more)
    (counted : s.left = s.rest.length) :
    scanToken s = .more (s.behind (.mark gap (String.singleton c)) (next :: more)) := by
  obtain ⟨noOpening, noClosing, printable, oneLine, notOpening, notClosing⟩ := plainMark_facts mark
  have parted : s.rest = List.replicate gap ' ' ++ c :: next :: more := by
    simpa [Lexeme.chars, Lexeme.mark] using ahead
  have any : c ∈ '(' :: ')' :: plainMarks := List.mem_cons_of_mem _ (List.mem_cons_of_mem _ mark)
  rw [scanToken_mark any (fun _ => noNumber) parted counted]
  unfold scanOperator
  rw [show (s.past _ (c :: next :: more)).rest = c :: next :: more from rfl, no_longer_operator ends]
  dsimp only
  rw [if_neg noOpening, if_neg noClosing, if_pos printable]
  refine emit_behind (l := .mark gap (String.singleton c)) ?_ ?_ ?_
  · simp [Lexeme.mark, Lexeme.brackets, notOpening, notClosing, State.past]
  · simp [Lexeme.mark]
  · simpa [Lexeme.mark] using oneLine

theorem scanToken_stars {s : State} {gap : Nat} {next : Char} {more : List Char} (ends : next ≠ '=')
    (ahead : s.rest = (Lexeme.mark gap "**").chars ++ next :: more)
    (counted : s.left = s.rest.length) :
    scanToken s = .more (s.behind (.mark gap "**") (next :: more)) := by
  have parted : s.rest = List.replicate gap ' ' ++ '*' :: '*' :: next :: more := by
    simpa [Lexeme.chars, Lexeme.mark] using ahead
  have found : (longOperators.find? fun op =>
      ('*' :: '*' :: next :: more).take op.length == op.toList) = some "**" := by
    refine List.find?_eq_some_iff_append.mpr ⟨by simp [← String.length_toList], ["**=", "//=", "<<=",
      ">>=", "...", "!=", "%=", "&="], _, rfl, fun op member => ?_⟩
    simp only [List.mem_cons, List.not_mem_nil, or_false] at member
    rcases member with rfl | rfl | rfl | rfl | rfl | rfl | rfl | rfl <;>
      simp [← String.length_toList, ends]
  rw [scanToken_mark (by decide) (fun point => absurd point (by decide)) parted counted]
  unfold scanOperator
  rw [show (s.past _ ('*' :: '*' :: next :: more)).rest = '*' :: '*' :: next :: more from rfl, found]
  refine emit_behind (l := .mark gap "**") ?_ ?_ ?_ <;>
    simp [Lexeme.brackets, Lexeme.mark, State.past, ← String.length_toList]

theorem scanToken_opening {s : State} {gap : Nat} {next : Char} {more : List Char}
    (few : s.brackets.length < maxBrackets)
    (ahead : s.rest = (Lexeme.mark gap "(").chars ++ next :: more)
    (counted : s.left = s.rest.length) :
    scanToken s = .more (s.behind (.mark gap "(") (next :: more)) := by
  have parted : s.rest = List.replicate gap ' ' ++ '(' :: next :: more := by
    simpa [Lexeme.chars, Lexeme.mark] using ahead
  rw [scanToken_mark (by decide) (fun point => absurd point (by decide)) parted counted]
  unfold scanOperator
  rw [show (s.past _ ('(' :: next :: more)).rest = '(' :: next :: more from rfl,
    no_longer_operator (beginsLonger_bracket (.inl rfl) next)]
  dsimp only
  rw [if_pos (.inl rfl), show (s.past _ ('(' :: next :: more)).brackets = s.brackets from rfl,
    if_neg (Nat.not_le_of_lt few)]
  refine emit_behind (l := .mark gap "(") ?_ ?_ ?_ <;>
    simp [Lexeme.brackets, Lexeme.mark, State.past, ← String.length_toList]

theorem scanToken_closing {s : State} {gap : Nat} {next : Char} {more : List Char} {opened : Bracket}
    {outer : List Bracket} (within : s.brackets = opened :: outer) (round : opened.char = '(')
    (ahead : s.rest = (Lexeme.mark gap ")").chars ++ next :: more)
    (counted : s.left = s.rest.length) :
    scanToken s = .more (s.behind (.mark gap ")") (next :: more)) := by
  have parted : s.rest = List.replicate gap ' ' ++ ')' :: next :: more := by
    simpa [Lexeme.chars, Lexeme.mark] using ahead
  rw [scanToken_mark (by decide) (fun point => absurd point (by decide)) parted counted]
  unfold scanOperator
  rw [show (s.past _ (')' :: next :: more)).rest = ')' :: next :: more from rfl,
    no_longer_operator (beginsLonger_bracket (.inr rfl) next),
    show (s.past _ (')' :: next :: more)).brackets = opened :: outer from within]
  dsimp only
  rw [if_neg (by decide), if_pos (.inl rfl), if_pos (by rw [round]; rfl)]
  refine emit_behind (l := .mark gap ")") ?_ ?_ ?_ <;>
    simp [Lexeme.brackets, Lexeme.mark, State.past, within, ← String.length_toList]

theorem run_of_scanToken {s next : State} (within : s.lineStart = false)
    (step : scanToken s = .more next) (less : next.remaining < s.remaining) : run s = run next := by
  rw [run, within, if_neg Bool.false_ne_true, step]
  exact dif_pos less

theorem exists_headOf (ls : List Lexeme) (more : List Char) :
    ∃ tail, lineText ls ++ '\n' :: more = headOf ls :: tail := by
  unfold headOf
  cases lineText ls with
  | nil => exact ⟨more, rfl⟩
  | cons c after => exact ⟨after ++ '\n' :: more, rfl⟩

theorem run_lexeme {s : State} {l : Lexeme} {rest : List Lexeme} {more : List Char}
    (within : s.lineStart = false) (ahead : s.rest = lineText (l :: rest) ++ '\n' :: more)
    (counted : s.left = s.rest.length) (nonempty : l.text ≠ "")
    (step : ∀ tail, s.rest = l.chars ++ headOf rest :: tail →
      scanToken s = .more (s.behind l (headOf rest :: tail))) :
    run s = run (s.behind l (lineText rest ++ '\n' :: more)) := by
  obtain ⟨tail, follows⟩ := exists_headOf rest more
  have parted : s.rest = l.chars ++ headOf rest :: tail := by
    rw [ahead, ← follows]
    simp [lineText]
  have long : 0 < l.text.toList.length := by
    rw [List.length_pos_iff]
    intro none
    exact nonempty (String.toList_inj.mp none)
  rw [follows]
  refine run_of_scanToken within (step tail parted) ?_
  simp only [State.remaining, State.behind, State.past, within, counted, parted, List.length_append,
    Lexeme.chars]
  omega

theorem scanToken_newline {s : State} {more : List Char} (ahead : s.rest = '\n' :: more)
    (counted : s.left = s.rest.length) (closed : s.brackets = []) :
    scanToken s = .more { s with
      rest := more, left := more.length, line := s.line + 1, column := 0, chars := 0
      lastLength := s.column + 1, lineStart := true
      tokens := s.tokens.push ⟨.newline, "\n", s.line, some s.column, s.column⟩ } := by
  obtain ⟨_, left, line, column, chars, last, start, indents, brackets, tokens⟩ := s
  simp only at ahead counted closed
  subst ahead counted closed
  simp [scanToken, isSpace, State.skipMany, State.endLine, State.skip]

/-- The state behind lexemes and the line's end. -/
def State.endOfLine (s : State) (ls : List Lexeme) (more : List Char) : State :=
  let column := s.column + byteLength (lineText ls)
  { s with
    rest := more, left := more.length, line := s.line + 1, column := 0, chars := 0
    lastLength := column + 1, lineStart := true, brackets := []
    tokens := s.tokens ++
      (lineTokens s.line s.column ls ++
        [(⟨.newline, "\n", s.line, some column, column⟩ : Token)]).toArray }

theorem endOfLine_behind (s : State) (l : Lexeme) (ls : List Lexeme) (rest more : List Char) :
    (s.behind l rest).endOfLine ls more = s.endOfLine (l :: ls) more := by
  simp [State.endOfLine, State.behind, State.past, lineText, lineTokens, Lexeme.chars, Nat.add_assoc]

/-- What is spelled up to the end of a line is scanned into its tokens. -/
theorem run_lexemes {depth : Nat} {ls : List Lexeme} (spelled : Spelled depth ls) {s : State}
    {more : List Char} (within : s.lineStart = false) (ahead : s.rest = lineText ls ++ '\n' :: more)
    (counted : s.left = s.rest.length)
    (opened : s.brackets.map (·.char) = List.replicate depth '(') :
    run s = run (s.endOfLine ls more) := by
  -- The scanner's brackets are generalised with its state: their number is the depth of what is spelled.
  induction spelled generalizing s with
  | done =>
    have closed : s.brackets = [] := List.map_eq_nil_iff.mp opened
    rw [run_of_scanToken within (scanToken_newline ahead counted closed)]
    · simp [State.endOfLine, lineText, lineTokens, closed]
    · rw [ahead] at counted
      simp [State.remaining, within, counted, lineText]
      omega
  | word identifier ends _ ih =>
    simp only [endsWord, Bool.and_eq_true, Bool.not_eq_true', bne_iff_ne] at ends
    obtain ⟨⟨ends, single⟩, double⟩ := ends
    rw [run_lexeme within ahead counted (isPlain_of_isIdentifier identifier).2
      fun tail parted => scanToken_word identifier ends ⟨single, double⟩ parted counted]
    refine (ih (s := s.behind _ _) within rfl rfl ?_).trans
      (congrArg run (endOfLine_behind s _ _ _ more))
    rw [State.behind, Lexeme.brackets_of_identifier identifier]
    exact opened
  | @mark gap depth _ c rest single plain ends noNumber _ ih =>
    subst single
    obtain ⟨-, -, -, -, notOpening, notClosing⟩ := plainMark_facts plain
    rw [run_lexeme within ahead counted (by simp [Lexeme.mark])
      fun tail parted => scanToken_plainMark plain ends noNumber parted counted]
    refine (ih (s := s.behind _ _) within rfl rfl ?_).trans
      (congrArg run (endOfLine_behind s _ _ _ more))
    simpa [State.behind, Lexeme.brackets, Lexeme.mark, notOpening, notClosing] using opened
  | stars ends _ ih =>
    rw [run_lexeme within ahead counted (by simp [Lexeme.mark])
      fun tail parted => scanToken_stars ends parted counted]
    refine (ih (s := s.behind _ _) within rfl rfl ?_).trans
      (congrArg run (endOfLine_behind s _ _ _ more))
    simpa [State.behind, Lexeme.brackets, Lexeme.mark] using opened
  | opening few _ ih =>
    have few' := congrArg List.length opened
    rw [List.length_map, List.length_replicate] at few'
    rw [run_lexeme within ahead counted (by simp [Lexeme.mark])
      fun tail parted => scanToken_opening (by omega) parted counted]
    refine (ih (s := s.behind _ _) within rfl rfl ?_).trans
      (congrArg run (endOfLine_behind s _ _ _ more))
    simpa [State.behind, Lexeme.brackets, Lexeme.mark, List.replicate_succ] using opened
  | @closing gap depth rest _ ih =>
    obtain ⟨bracket, outer, around, round, others⟩ :=
      List.map_eq_cons_iff.mp (opened.trans List.replicate_succ)
    rw [run_lexeme within ahead counted (by simp [Lexeme.mark])
      fun tail parted => scanToken_closing around round parted counted]
    refine (ih (s := s.behind _ _) within rfl rfl ?_).trans
      (congrArg run (endOfLine_behind s _ _ _ more))
    simpa [State.behind, Lexeme.brackets, Lexeme.mark, around] using others

def furtherParts (parts : List String) : List Lexeme :=
  parts.flatMap fun part => [.mark 0 ".", .word 0 part]

theorem lineText_furtherParts (first : String) (parts : List String) :
    first.toList ++ lineText (furtherParts parts) = (join "." (first :: parts)).toList := by
  induction parts generalizing first with
  | nil => simp [furtherParts, lineText, join]
  | cons part parts ih =>
    rw [join, String.toList_append, String.toList_append, ← ih part]
    · simp [furtherParts, lineText, Lexeme.chars, Lexeme.mark, Lexeme.word]
    · exact List.cons_ne_nil part parts

theorem isDigit_of_isIdentifierStart {c : Char} (start : isIdentifierStart c = true) :
    c.isDigit = false := by
  by_cases ascii : c.toNat < 128
  · exact ascii_forall (p := fun c => isIdentifierStart c = true → c.isDigit = false)
      (by decide +kernel) ascii start
  · have high : 57 < c.toNat := by omega
    simp [Char.isDigit, UInt32.lt_iff_toNat_lt.mpr (show (57 : UInt32).toNat < c.val.toNat from high)]

theorem spelled_furtherParts {parts : List String} {rest : List Lexeme} {depth : Nat}
    (identifiers : ∀ part ∈ parts, isIdentifier part = true) (ends : endsWord (headOf rest) = true)
    (more : Spelled depth rest) : Spelled depth (furtherParts parts ++ rest) ∧
      endsWord (headOf (furtherParts parts ++ rest)) = true := by
  induction parts with
  | nil => exact ⟨more, ends⟩
  | cons part parts ih =>
    obtain ⟨spelled, ends'⟩ := ih fun other member => identifiers other (List.mem_cons_of_mem part member)
    obtain ⟨c, after, same, start, -⟩ := exists_of_isIdentifier (identifiers part List.mem_cons_self)
    have head : headOf (.word 0 part :: (furtherParts parts ++ rest)) = c := by
      simp [headOf, lineText, Lexeme.chars, Lexeme.word, same]
    have above := above_slash_of_isIdentifierStart start
    refine ⟨.mark (c := '.') rfl (by decide) ?_ ?_
      (.word (identifiers part List.mem_cons_self) ends' spelled), by rfl⟩
    · show beginsLonger '.' (headOf (.word 0 part :: (furtherParts parts ++ rest))) = false
      have noPoint : '.' ≠ c := (ne_of_above_slash above (by decide)).symm
      rw [head]
      simp [beginsLonger, longOperators, noPoint]
    · show (headOf (.word 0 part :: (furtherParts parts ++ rest))).isDigit = false
      rw [head]
      exact isDigit_of_isIdentifierStart start

theorem above_control_cons {l : Lexeme} {ls : List Lexeme}
    (first : ∀ c ∈ l.text.toList, 0x1F < c.toNat) (later : ∀ c ∈ lineText ls, 0x1F < c.toNat) :
    ∀ c ∈ lineText (l :: ls), 0x1F < c.toNat := by
  intro c member
  simp only [lineText_cons, Lexeme.chars, List.mem_append] at member
  rcases member with (gap | text) | rest
  · rw [List.eq_of_mem_replicate gap]
    decide
  · exact first c text
  · exact later c rest

theorem above_control_of_spelled {depth : Nat} {ls : List Lexeme} (spelled : Spelled depth ls) :
    ∀ c ∈ lineText ls, 0x1F < c.toNat := by
  induction spelled with
  | done => exact fun c member => nomatch member
  | word identifier _ _ ih =>
    exact above_control_cons (fun c member =>
      Nat.lt_trans (by decide) ((isPlain_of_isIdentifier identifier).1 c member)) ih
  | @mark _ _ _ c _ single plain _ _ _ ih =>
    refine above_control_cons (fun d member => ?_) ih
    obtain rfl : d = c := by simpa [Lexeme.mark, single] using member
    simp only [plainMarks, List.mem_cons, List.not_mem_nil, or_false] at plain
    rcases plain with rfl | rfl | rfl | rfl | rfl <;> decide
  | stars _ _ ih => exact above_control_cons (by simp [Lexeme.mark]) ih
  | opening _ _ ih => exact above_control_cons (by simp [Lexeme.mark]) ih
  | closing _ ih => exact above_control_cons (by simp [Lexeme.mark]) ih

end PluginBuild.Script.Lexer
