import Mathlib.Data.List.TakeWhile
import PluginBuild.Json.Comments

/-!
Texts with comments as lists of pieces: strings, words, single characters, comments, and the commas
that are dropped. Dropping comments and commas from a text is dropping pieces, as long as every quote
in it begins a string that ends.
-/

namespace PluginBuild.Json

def isWordChar (c : Char) : Bool := c.isAlphanum || c == '+' || c == '-' || c == '.'

/-- A piece of a text. A string is given from behind its opening quote on, with its closing quote, a
comment without its marks. -/
inductive Piece where
  | string (s : List Char)
  | word (w : List Char)
  | mark (c : Char)
  | block (inner : List Char)
  | line (inner : List Char)
  | comma
  deriving DecidableEq, Repr

namespace Piece

def text : Piece → List Char
  | string s => '"' :: s
  | word w => w
  | mark c => [c]
  | block inner => '/' :: '*' :: inner ++ ['*', '/']
  | line inner => '/' :: '/' :: inner
  | comma => [',']

def isComment : Piece → Bool
  | block _ | line _ => true
  | _ => false

/-- Whether a piece is neither a comment nor a comma that is dropped. -/
def isToken : Piece → Bool
  | block _ | line _ | comma => false
  | _ => true

def isWord : Piece → Bool
  | word _ => true
  | _ => false

def isGap : Piece → Bool
  | mark c => Text.isBlank c
  | p => p.isComment

def isOpening : Piece → Bool
  | mark c => c == '[' || c == '\x7b'
  | _ => false

def isClosing : Piece → Bool
  | mark c => c == ']' || c == '\x7d'
  | _ => false

end Piece

def textOf (ps : List Piece) : List Char := ps.flatMap Piece.text

/-- The first piece that is neither white space nor a comment. -/
def next? (ps : List Piece) : Option Piece := ps.find? (!·.isGap)

def splitBlock? : List Char → Option (List Char × List Char)
  | [] => none
  | '*' :: '/' :: rest => some ([], rest)
  | c :: rest => (splitBlock? rest).map fun (inner, rest) => (c :: inner, rest)

theorem splitBlock?_length {text inner rest : List Char}
    (found : splitBlock? text = some (inner, rest)) : rest.length < text.length := by
  fun_induction splitBlock? text generalizing inner rest with
  | case1 => cases found
  | case2 rest' =>
    cases found
    simp only [List.length_cons]
    omega
  | case3 c rest' _ ih =>
    obtain ⟨⟨inner', r⟩, later, eq⟩ := Option.map_eq_some_iff.1 found
    cases eq
    have := ih later
    simp only [List.length_cons]
    omega

/-- The pieces of a text, every comma among the single characters. -/
def scan : List Char → List Piece
  | [] => []
  | c :: rest =>
    if c = '"' then
      match _found : stringTail escapedInLine rest with
      | some (s, rest') => .string s :: scan rest'
      | none => .mark c :: scan rest
    else if c = '/' ∧ rest.head? = some '/' then
      .line ((rest.drop 1).takeWhile (· ≠ '\n')) :: scan (rest.dropWhile (· ≠ '\n'))
    else if c = '/' ∧ rest.head? = some '*' then
      match _found : splitBlock? (rest.drop 1) with
      | some (inner, rest') => .block inner :: scan rest'
      | none => .mark c :: scan rest
    else if isWordChar c then
      .word (c :: rest.takeWhile isWordChar) :: scan (rest.dropWhile isWordChar)
    else .mark c :: scan rest
termination_by text => text.length
decreasing_by
  · have := stringTail_length _found
    simp only [List.length_cons]
    omega
  · simp
  · have := (List.dropWhile_suffix (· ≠ '\n') (l := rest)).length_le
    simp only [List.length_cons]
    omega
  · have := splitBlock?_length _found
    simp only [List.length_drop, List.length_cons] at this ⊢
    omega
  · simp
  · have := (List.dropWhile_suffix isWordChar (l := rest)).length_le
    simp only [List.length_cons]
    omega
  · simp

def closes (ps : List Piece) : Bool := (next? ps).any (·.isClosing)

/-- Pieces with the commas told apart that are dropped. -/
def settle : List Piece → List Piece
  | [] => []
  | p :: rest => (if p = .mark ',' ∧ closes rest = true then .comma else p) :: settle rest

def pieces (text : List Char) : List Piece := settle (scan text)

theorem stringTail_append {mayEscape : Char → Bool} {text s rest : List Char}
    (found : stringTail mayEscape text = some (s, rest)) : text = s ++ rest := by
  fun_induction stringTail mayEscape text generalizing s rest with
  | case1 | case3 | case5 => cases found
  | case2 rest' =>
    cases found
    rfl
  | case4 c rest' _ ih | case6 c rest' _ _ _ ih =>
    obtain ⟨⟨s', r⟩, later, eq⟩ := Option.map_eq_some_iff.1 found
    cases eq
    rw [ih later]
    rfl

theorem stringTail_self {mayEscape : Char → Bool} {text s rest : List Char}
    (found : stringTail mayEscape text = some (s, rest)) (other : List Char) :
    stringTail mayEscape (s ++ other) = some (s, other) := by
  fun_induction stringTail mayEscape text generalizing s rest with
  | case1 | case3 | case5 => cases found
  | case2 rest' =>
    cases found
    rfl
  | case4 c rest' may ih =>
    obtain ⟨⟨s', r⟩, later, eq⟩ := Option.map_eq_some_iff.1 found
    cases eq
    simp [stringTail, may, ih later]
  | case6 c rest' plain alone pair ih =>
    obtain ⟨⟨s', r⟩, later, eq⟩ := Option.map_eq_some_iff.1 found
    cases eq
    have differ : c ≠ '\\' := by
      intro same
      cases rest' with
      | nil => exact alone same rfl
      | cons next more => exact pair next more same rfl
    rw [List.cons_append, stringTail, ih later]
    · rfl
    · exact plain
    · exact fun same _ => differ same
    · exact fun _ _ same _ => differ same

theorem stringTail_anyEscaped {text s rest : List Char}
    (found : stringTail escapedInLine text = some (s, rest)) :
    stringTail anyEscaped text = some (s, rest) := by
  fun_induction stringTail escapedInLine text generalizing s rest with
  | case1 | case3 | case5 => cases found
  | case2 rest' =>
    cases found
    rfl
  | case4 c rest' may ih =>
    obtain ⟨⟨s', r⟩, later, eq⟩ := Option.map_eq_some_iff.1 found
    cases eq
    simp [stringTail, anyEscaped, ih later]
  | case6 c rest' plain alone pair ih =>
    obtain ⟨⟨s', r⟩, later, eq⟩ := Option.map_eq_some_iff.1 found
    cases eq
    rw [stringTail, ih later]
    · rfl
    all_goals assumption

theorem splitBlock?_append {text inner rest : List Char}
    (found : splitBlock? text = some (inner, rest)) : text = inner ++ ['*', '/'] ++ rest := by
  fun_induction splitBlock? text generalizing inner rest with
  | case1 => cases found
  | case2 rest' =>
    cases found
    rfl
  | case3 c rest' _ ih =>
    obtain ⟨⟨inner', r⟩, later, eq⟩ := Option.map_eq_some_iff.1 found
    cases eq
    rw [ih later]
    rfl

theorem blockTail_eq (text : List Char) : blockTail text = (splitBlock? text).map (·.2) := by
  fun_induction blockTail text with
  | case1 => rfl
  | case2 rest => rfl
  | case3 c rest other ih =>
    rw [splitBlock?, ih, Option.map_map]
    · rfl
    · exact other

@[simp] theorem textOf_nil : textOf [] = [] := rfl

@[simp] theorem textOf_cons (p : Piece) (ps : List Piece) : textOf (p :: ps) = p.text ++ textOf ps := by
  simp [textOf]

theorem textOf_scan (text : List Char) : textOf (scan text) = text := by
  fun_induction scan text with
  | case1 => rfl
  | case2 rest s rest' found ih =>
    rw [textOf_cons, ih, stringTail_append found]
    rfl
  | case3 rest _ ih => rw [textOf_cons, ih]; rfl
  | case4 c rest _ slash ih =>
    obtain ⟨rfl, second⟩ := slash
    obtain ⟨more, rfl⟩ := List.head?_eq_some_iff.1 second
    rw [textOf_cons, ih]
    simp [Piece.text]
  | case5 c rest _ _ star inner rest' found ih =>
    obtain ⟨rfl, second⟩ := star
    obtain ⟨more, rfl⟩ := List.head?_eq_some_iff.1 second
    rw [List.drop_one, List.tail_cons] at found
    rw [textOf_cons, ih, splitBlock?_append found]
    simp [Piece.text]
  | case6 c rest _ _ _ _ ih => rw [textOf_cons, ih]; rfl
  | case7 c rest _ _ _ _ ih =>
    rw [textOf_cons, ih]
    exact congrArg (c :: ·) List.takeWhile_append_dropWhile
  | case8 c rest _ _ _ _ ih => rw [textOf_cons, ih]; rfl

theorem ne_of_isWordChar {c d : Char} (word : isWordChar c = true) (other : isWordChar d = false) :
    c ≠ d := by
  rintro rfl
  simp [word] at other

/-- A text that does not go on with a word. -/
def EndsWord (text : List Char) : Prop := ∀ c ∈ text.head?, isWordChar c = false

theorem endsWord_dropWhile (rest : List Char) : EndsWord (rest.dropWhile isWordChar) := by
  intro c first
  have stop := List.head?_dropWhile_not isWordChar rest
  rw [Option.mem_def.1 first] at stop
  simpa using stop

theorem word_at_head {c : Char} (word : isWordChar c = true) (rest : List Char) :
    c :: rest = c :: rest.takeWhile isWordChar ++ rest.dropWhile isWordChar ∧
      ∀ d ∈ c :: rest.takeWhile isWordChar, isWordChar d = true := by
  constructor
  · rw [List.cons_append, List.takeWhile_append_dropWhile]
  · intro d inside
    rcases List.mem_cons.1 inside with rfl | inside
    · exact word
    · exact List.mem_takeWhile_imp inside

/-- A piece that begins and ends where it should: a string that ends, a word with characters, and no
quote among the single characters. -/
def Piece.IsWhole : Piece → Prop
  | .string s => stringTail escapedInLine s = some (s, [])
  | .word w => w ≠ [] ∧ ∀ c ∈ w, isWordChar c = true
  | .mark c => c ≠ '"' ∧ isWordChar c = false
  | _ => True

theorem isWhole_of_mem_scan {text : List Char} (closed : .mark '"' ∉ scan text) :
    ∀ p ∈ scan text, p.IsWhole := by
  fun_induction scan text with
  | case1 => exact fun p member => nomatch member
  | case2 rest s rest' found ih =>
    rw [List.mem_cons, not_or] at closed
    rintro p (_ | ⟨_, later⟩)
    · have whole := stringTail_self found []
      rwa [List.append_nil] at whole
    · exact ih closed.2 p later
  | case3 rest _ ih => exact absurd List.mem_cons_self closed
  | case4 c rest _ _ ih | case5 c rest _ _ _ inner rest' _ ih =>
    rw [List.mem_cons, not_or] at closed
    rintro p (_ | ⟨_, later⟩)
    · trivial
    · exact ih closed.2 p later
  | case6 c rest quote _ slash _ ih =>
    rw [List.mem_cons, not_or] at closed
    rintro p (_ | ⟨_, later⟩)
    · exact ⟨quote, slash.1 ▸ by decide⟩
    · exact ih closed.2 p later
  | case7 c rest _ _ _ word ih =>
    rw [List.mem_cons, not_or] at closed
    rintro p (_ | ⟨_, later⟩)
    · exact ⟨List.cons_ne_nil _ _, (word_at_head word rest).2⟩
    · exact ih closed.2 p later
  | case8 c rest quote _ _ other ih =>
    rw [List.mem_cons, not_or] at closed
    rintro p (_ | ⟨_, later⟩)
    · exact ⟨quote, by simpa using other⟩
    · exact ih closed.2 p later

theorem comma_notMem_scan (text : List Char) : .comma ∉ scan text := by
  fun_induction scan text <;> simp_all

theorem stripComments_string {rest s rest' : List Char}
    (found : stringTail anyEscaped rest = some (s, rest')) :
    stripComments ('"' :: rest) = '"' :: s ++ stripComments rest' := by
  rw [stripComments, if_pos rfl]
  split
  · rename_i other
    cases found.symm.trans other
    rfl
  · rename_i other
    cases found.symm.trans other

theorem stripComments_block {rest rest' : List Char} (found : blockTail rest = some rest') :
    stripComments ('/' :: '*' :: rest) = stripComments rest' := by
  rw [stripComments, if_neg (by decide), if_neg (by simp), if_pos (by simp)]
  split
  · rename_i other
    cases found.symm.trans other
    rfl
  · rename_i other
    cases found.symm.trans other

theorem stripComments_other {c : Char} {rest : List Char} (quote : c ≠ '"')
    (line : ¬ (c = '/' ∧ rest.head? = some '/'))
    (block : c = '/' ∧ rest.head? = some '*' → blockTail (rest.drop 1) = none) :
    stripComments (c :: rest) = c :: stripComments rest := by
  rw [stripComments, if_neg quote, if_neg line]
  split
  · rename_i star
    split
    · rename_i found
      cases (block star).symm.trans found
    · rw [star.1]
  · rfl

theorem stripComments_word {w : List Char} (word : ∀ c ∈ w, isWordChar c = true) (rest : List Char) :
    stripComments (w ++ rest) = w ++ stripComments rest := by
  induction w with
  | nil => rfl
  | cons c w ih =>
    have here := word c List.mem_cons_self
    have slash : c ≠ '/' := ne_of_isWordChar here (by decide)
    rw [List.cons_append, stripComments_other (ne_of_isWordChar here (by decide))
      (fun line => slash line.1) (fun block => absurd block.1 slash),
      ih fun d inside => word d (List.mem_cons_of_mem c inside)]
    rfl

theorem stripComments_scan {text : List Char} (closed : .mark '"' ∉ scan text) :
    stripComments text = textOf ((scan text).filter (!·.isComment)) := by
  fun_induction scan text with
  | case1 => simp [stripComments]
  | case2 rest s rest' found ih =>
    rw [List.mem_cons, not_or] at closed
    rw [stripComments_string (stringTail_anyEscaped found), ih closed.2]
    rfl
  | case3 rest _ ih => exact absurd List.mem_cons_self closed
  | case4 c rest quote slash ih =>
    rw [List.mem_cons, not_or] at closed
    rw [stripComments, if_neg quote, if_pos slash, ih closed.2]
    rfl
  | case5 c rest quote slash star inner rest' found ih =>
    rw [List.mem_cons, not_or] at closed
    obtain ⟨rfl, second⟩ := star
    obtain ⟨more, rfl⟩ := List.head?_eq_some_iff.1 second
    rw [List.drop_one, List.tail_cons] at found
    rw [stripComments_block (by rw [blockTail_eq, found]; rfl), ih closed.2]
    rfl
  | case6 c rest quote slash star found ih =>
    rw [List.mem_cons, not_or] at closed
    rw [stripComments_other quote slash (fun _ => by rw [blockTail_eq, found]; rfl), ih closed.2]
    rfl
  | case7 c rest _ _ _ word ih =>
    rw [List.mem_cons, not_or] at closed
    obtain ⟨whole, all⟩ := word_at_head word rest
    rw [whole, stripComments_word all, ih closed.2]
    rfl
  | case8 c rest quote slash star other ih =>
    rw [List.mem_cons, not_or] at closed
    rw [stripComments_other quote slash (fun block => absurd block star), ih closed.2]
    rfl

theorem isBlank_of_isWordChar {c : Char} (word : isWordChar c = true) : Text.isBlank c = false := by
  have bounds : 43 ≤ c.toNat ∧ c.toNat < 128 := by
    have ranges : ((decide ('A'.val ≤ c.val ∧ c.val ≤ 'Z'.val) ||
        (decide ('a'.val ≤ c.val) && decide (c.val ≤ 'z'.val)) ||
        (decide ('0'.val ≤ c.val) && decide (c.val ≤ '9'.val))) ||
        c == '+' || c == '-' || c == '.') = true := word
    simp only [Bool.or_eq_true, Bool.and_eq_true, decide_eq_true_eq, beq_iff_eq,
      UInt32.le_iff_toNat_le] at ranges
    rcases ranges with (((((upper | lower) | digit) | rfl) | rfl) | rfl)
    · exact ⟨Nat.le_trans (by decide) upper.1, Nat.lt_of_le_of_lt upper.2 (by decide)⟩
    · exact ⟨Nat.le_trans (by decide) lower.1, Nat.lt_of_le_of_lt lower.2 (by decide)⟩
    · exact ⟨Nat.le_trans (by decide) digit.1, Nat.lt_of_le_of_lt digit.2 (by decide)⟩
    all_goals decide
  simp only [Text.isBlank, bounds.2, if_true]
  simp
  omega

theorem closesNext_textOf {ps : List Piece} (whole : ∀ p ∈ ps, p.IsWhole) (unsettled : .comma ∉ ps) :
    closesNext (textOf (ps.filter (!·.isComment))) = closes ps := by
  induction ps with
  | nil => rfl
  | cons p rest ih =>
    rw [List.mem_cons, not_or] at unsettled
    have later := ih (fun q member => whole q (List.mem_cons_of_mem p member)) unsettled.2
    cases p with
    | string s => rfl
    | word w =>
      obtain ⟨nonempty, all⟩ := whole _ List.mem_cons_self
      obtain ⟨c, w, rfl⟩ := List.exists_cons_of_ne_nil nonempty
      have here := all c List.mem_cons_self
      have round : c ≠ ']' := ne_of_isWordChar here (by decide)
      have curly : c ≠ '\x7d' := ne_of_isWordChar here (by decide)
      simp [closesNext, closes, next?, Piece.isComment, Piece.text, Piece.isGap, Piece.isClosing,
        isBlank_of_isWordChar here, round, curly]
    | mark c =>
      cases blank : Text.isBlank c with
      | true =>
        simpa [closesNext, closes, next?, Piece.isComment, Piece.text, Piece.isGap, blank] using later
      | false =>
        simp [closesNext, closes, next?, Piece.isComment, Piece.text, Piece.isGap, Piece.isClosing,
          blank]
    | block inner => exact later
    | line inner => exact later
    | comma => exact absurd rfl unsettled.1

theorem stripTrailingCommas_string {rest s rest' : List Char}
    (found : stringTail escapedInLine rest = some (s, rest')) :
    stripTrailingCommas ('"' :: rest) = '"' :: s ++ stripTrailingCommas rest' := by
  rw [stripTrailingCommas, if_pos rfl]
  split
  · rename_i other
    cases found.symm.trans other
    rfl
  · rename_i other
    cases found.symm.trans other

theorem stripTrailingCommas_word {w : List Char} (word : ∀ c ∈ w, isWordChar c = true)
    (rest : List Char) : stripTrailingCommas (w ++ rest) = w ++ stripTrailingCommas rest := by
  induction w with
  | nil => rfl
  | cons c w ih =>
    have here := word c List.mem_cons_self
    have comma : c ≠ ',' := ne_of_isWordChar here (by decide)
    rw [List.cons_append, stripTrailingCommas, if_neg (ne_of_isWordChar here (by decide)),
      if_neg (fun drop => comma drop.1), ih fun d inside => word d (List.mem_cons_of_mem c inside)]
    rfl

theorem stripTrailingCommas_settle {ps : List Piece} (whole : ∀ p ∈ ps, p.IsWhole)
    (unsettled : .comma ∉ ps) :
    stripTrailingCommas (textOf (ps.filter (!·.isComment))) =
      textOf ((settle ps).filter (·.isToken)) := by
  induction ps with
  | nil => simp [stripTrailingCommas, settle]
  | cons p rest ih =>
    rw [List.mem_cons, not_or] at unsettled
    have others : ∀ q ∈ rest, q.IsWhole := fun q member => whole q (List.mem_cons_of_mem p member)
    have later := ih others unsettled.2
    have next := closesNext_textOf others unsettled.2
    cases p with
    | string s =>
      have found := stringTail_self (whole _ List.mem_cons_self)
        (textOf (rest.filter (!·.isComment)))
      rw [settle, if_neg (by simp), List.filter_cons_of_pos rfl, List.filter_cons_of_pos rfl,
        textOf_cons, textOf_cons, ← later]
      exact stripTrailingCommas_string found
    | word w =>
      rw [settle, if_neg (by simp), List.filter_cons_of_pos rfl, List.filter_cons_of_pos rfl,
        textOf_cons, textOf_cons, ← later]
      exact stripTrailingCommas_word (whole _ List.mem_cons_self).2 _
    | mark c =>
      -- Whether a closing bracket comes next is the same with comments and without.
      have quote : c ≠ '"' := (whole _ List.mem_cons_self).1
      rw [List.filter_cons_of_pos rfl, textOf_cons, settle]
      show stripTrailingCommas (c :: textOf _) = _
      rw [stripTrailingCommas, if_neg quote, next, later]
      by_cases drop : c = ',' ∧ closes rest = true
      · rw [if_pos drop, if_pos (by rwa [Piece.mark.injEq])]
        rfl
      · rw [if_neg drop, if_neg (by rwa [Piece.mark.injEq])]
        rfl
    | block inner => exact later
    | line inner => exact later
    | comma => exact absurd rfl unsettled.1

/-- Dropping the comments and the trailing commas of a text is dropping those among its pieces. -/
theorem strip_eq {text : List Char} (closed : .mark '"' ∉ scan text) :
    strip text = textOf ((pieces text).filter (·.isToken)) := by
  rw [strip, stripComments_scan closed, stripTrailingCommas_settle (isWhole_of_mem_scan closed)
    (comma_notMem_scan text)]
  rfl

end PluginBuild.Json
