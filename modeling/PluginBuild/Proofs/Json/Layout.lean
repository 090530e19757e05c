import PluginBuild.Proofs.Json.Pieces

/-!
How pieces may follow one another. Pieces that are laid out in order are the pieces of their own text,
and the pieces of a text are laid out in order.
-/

namespace PluginBuild.Json

/-- Each piece stands well before those that follow it. -/
def Everywhere (good : Piece → List Piece → Prop) : List Piece → Prop
  | [] => True
  | p :: rest => good p rest ∧ Everywhere good rest

namespace Everywhere

variable {good other : Piece → List Piece → Prop} {ps : List Piece}

theorem imp (all : ∀ p rest, good p rest → other p rest) (everywhere : Everywhere good ps) :
    Everywhere other ps := by
  induction ps with
  | nil => trivial
  | cons p rest ih => exact ⟨all p rest everywhere.1, ih everywhere.2⟩

theorem of_mem {p : Piece} (everywhere : Everywhere good ps) (member : p ∈ ps) :
    ∃ rest, good p rest := by
  induction ps with
  | nil => exact nomatch member
  | cons q rest ih =>
    rcases List.mem_cons.1 member with rfl | later
    · exact ⟨rest, everywhere.1⟩
    · exact ih everywhere.2 later

theorem of_filter (everywhere : Everywhere good (ps.filter (·.isToken))) :
    Everywhere (fun p rest => p.isToken = true → good p (rest.filter (·.isToken))) ps := by
  induction ps with
  | nil => trivial
  | cons p rest ih =>
    cases token : p.isToken with
    | true =>
      rw [List.filter_cons_of_pos token] at everywhere
      exact ⟨fun _ => everywhere.1, ih everywhere.2⟩
    | false =>
      rw [List.filter_cons_of_neg (by simp [token])] at everywhere
      exact ⟨fun other => absurd (token.symm.trans other) (by decide), ih everywhere⟩

instance decidable [∀ p rest, Decidable (good p rest)] (ps : List Piece) :
    Decidable (Everywhere good ps) :=
  match ps with
  | [] => .isTrue trivial
  | p :: rest =>
    match (inferInstance : Decidable (good p rest)), decidable rest with
    | .isTrue here, .isTrue later => .isTrue ⟨here, later⟩
    | .isFalse here, _ => .isFalse fun both => here both.1
    | _, .isFalse later => .isFalse fun both => later both.2

end Everywhere

namespace Piece

/-- No block comment ends before its end, a line comment ends with its line or with the text, and a
comma that is dropped has a closing bracket next. -/
def Sits : Piece → List Piece → Prop
  | block inner, _ => ¬ ['*', '/'] <:+: inner
  | line inner, rest => '\n' ∉ inner ∧ (rest = [] ∨ rest.head? = some (mark '\n'))
  | comma, rest => closes rest = true
  | _, _ => True

def IsApart (p : Piece) (rest : List Piece) : Prop :=
  p.isWord = true → rest.head?.all (!·.isWord) = true

/-- A comma that is not dropped has no closing bracket next. -/
def IsKept (p : Piece) (rest : List Piece) : Prop := p = mark ',' → closes rest = false

instance (p : Piece) (rest : List Piece) : Decidable (p.Sits rest) :=
  match p with
  | block inner => inferInstanceAs (Decidable (¬ ['*', '/'] <:+: inner))
  | line inner =>
    inferInstanceAs (Decidable ('\n' ∉ inner ∧ (rest = [] ∨ rest.head? = some (mark '\n'))))
  | comma => inferInstanceAs (Decidable (closes rest = true))
  | string _ | word _ | mark _ => .isTrue trivial

instance (p : Piece) (rest : List Piece) : Decidable (p.IsApart rest) :=
  inferInstanceAs (Decidable (p.isWord = true → rest.head?.all (!·.isWord) = true))

/-- A piece with its comma as a single character. -/
def unsettled : Piece → Piece
  | comma => mark ','
  | p => p

end Piece

theorem closes_cons (p : Piece) (rest : List Piece) :
    closes (p :: rest) = if p.isGap then closes rest else p.isClosing := by
  unfold closes next?
  rw [List.find?_cons]
  cases p.isGap <;> rfl

theorem closes_settle (ps : List Piece) : closes (settle ps) = closes ps := by
  induction ps with
  | nil => rfl
  | cons p rest ih =>
    rw [settle, closes_cons, closes_cons, ih]
    split
    · rename_i comma
      rw [comma.1]
      rfl
    · rfl

theorem closes_unsettled (ps : List Piece) : closes (ps.map Piece.unsettled) = closes ps := by
  induction ps with
  | nil => rfl
  | cons p rest ih =>
    rw [List.map_cons, closes_cons, closes_cons, ih]
    cases p <;> rfl

theorem closes_tokens {ps : List Piece} (next : closes ps = true) :
    closes (ps.filter (·.isToken)) = true := by
  induction ps with
  | nil => exact next
  | cons p rest ih =>
    rw [closes_cons] at next
    cases p with
    | block inner => exact ih next
    | line inner => exact ih next
    | comma => exact nomatch next
    | string s => exact nomatch next
    | word w => exact nomatch next
    | mark c =>
      rw [List.filter_cons_of_pos rfl, closes_cons]
      split
      · rename_i blank
        rw [if_pos blank] at next
        exact ih next
      · rename_i solid
        rwa [if_neg solid] at next

theorem splitBlock?_self {inner : List Char} (open' : ¬ ['*', '/'] <:+: inner) (rest : List Char) :
    splitBlock? (inner ++ '*' :: '/' :: rest) = some (inner, rest) := by
  induction inner with
  | nil => rfl
  | cons c inner ih =>
    have later := ih fun within => open' (within.trans (List.suffix_cons c inner).isInfix)
    rw [List.cons_append, splitBlock?, later]
    · rfl
    · intro after star same
      apply open'
      cases inner with
      | nil => cases same
      | cons d more =>
        cases same
        cases star
        exact ⟨[], more, rfl⟩

theorem splitBlock?_inner {text inner rest : List Char}
    (found : splitBlock? text = some (inner, rest)) : ¬ ['*', '/'] <:+: inner := by
  fun_induction splitBlock? text generalizing inner rest with
  | case1 => cases found
  | case2 rest' =>
    cases found
    decide
  | case3 c rest' other ih =>
    obtain ⟨⟨inner', r⟩, later, eq⟩ := Option.map_eq_some_iff.1 found
    cases eq
    rintro within
    rcases List.infix_cons_iff.1 within with first | behind
    · obtain ⟨more, whole⟩ := first
      obtain ⟨rfl, rfl⟩ := List.cons.inj whole
      exact other _ rfl (splitBlock?_append later)
    · exact ih later behind

theorem head_textOf {ps : List Piece} (whole : ∀ p ∈ ps, p.IsWhole)
    (apart : ps.head?.all (!·.isWord) = true) : EndsWord (textOf ps) := by
  cases ps with
  | nil => exact fun c member => nomatch member
  | cons p rest =>
    have here := whole p List.mem_cons_self
    rw [textOf_cons]
    cases p with
    | word w => cases apart
    | mark c =>
      rintro d ⟨⟩
      exact here.2
    | string s | block inner | line inner | comma =>
      rintro d ⟨⟩
      decide

theorem takeWhile_word {w rest : List Char} (word : ∀ c ∈ w, isWordChar c = true)
    (ends : EndsWord rest) :
    (w ++ rest).takeWhile isWordChar = w ∧ (w ++ rest).dropWhile isWordChar = rest := by
  rw [List.takeWhile_append_of_pos word, List.dropWhile_append_of_pos word]
  cases rest with
  | nil => simp
  | cons c rest => simp [ends c rfl]

theorem scan_string {rest s rest' : List Char}
    (found : stringTail escapedInLine rest = some (s, rest')) :
    scan ('"' :: rest) = .string s :: scan rest' := by
  rw [scan, if_pos rfl]
  split
  · rename_i other
    cases found.symm.trans other
    rfl
  · rename_i other
    cases found.symm.trans other

theorem scan_word {c : Char} {w rest : List Char} (word : ∀ d ∈ c :: w, isWordChar d = true)
    (ends : EndsWord rest) : scan (c :: w ++ rest) = .word (c :: w) :: scan rest := by
  have here := word c List.mem_cons_self
  have slash : c ≠ '/' := ne_of_isWordChar here (by decide)
  obtain ⟨taken, left⟩ := takeWhile_word (fun d inside => word d (List.mem_cons_of_mem c inside)) ends
  rw [List.cons_append, scan, if_neg (ne_of_isWordChar here (by decide)), if_neg (fun both => slash both.1),
    if_neg (fun both => slash both.1), if_pos here, taken, left]

theorem scan_mark {c : Char} (quote : c ≠ '"') (slash : c ≠ '/') (other : isWordChar c = false)
    (rest : List Char) : scan (c :: rest) = .mark c :: scan rest := by
  rw [scan, if_neg quote, if_neg (fun both => slash both.1), if_neg (fun both => slash both.1),
    if_neg (by simp [other])]

theorem scan_block {inner : List Char} (open' : ¬ ['*', '/'] <:+: inner) (rest : List Char) :
    scan ('/' :: '*' :: (inner ++ '*' :: '/' :: rest)) = .block inner :: scan rest := by
  rw [scan, if_neg (by decide), if_neg (by simp), if_pos (by simp)]
  have split := splitBlock?_self open' rest
  split
  · rename_i other
    cases split.symm.trans other
    rfl
  · rename_i other
    cases split.symm.trans other

theorem scan_line {inner rest : List Char} (plain : '\n' ∉ inner)
    (ends : rest = [] ∨ rest.head? = some '\n') :
    scan ('/' :: '/' :: (inner ++ rest)) = .line inner :: scan rest := by
  have stays : ∀ c ∈ inner, decide (c ≠ '\n') = true := by
    intro c inside
    rw [decide_eq_true_eq]
    rintro rfl
    exact plain inside
  have behind : rest.takeWhile (· ≠ '\n') = [] ∧ rest.dropWhile (· ≠ '\n') = rest := by
    rcases ends with rfl | feed
    · exact ⟨rfl, rfl⟩
    · obtain ⟨more, rfl⟩ := List.head?_eq_some_iff.1 feed
      exact ⟨rfl, rfl⟩
  rw [scan, if_neg (by decide), if_pos (by simp), List.drop_one, List.tail_cons,
    List.dropWhile_cons_of_pos (by decide), List.takeWhile_append_of_pos stays,
    List.dropWhile_append_of_pos stays, behind.1, behind.2, List.append_nil]

theorem scan_cons {p : Piece} {rest : List Piece} (whole : ∀ q ∈ p :: rest, q.IsWhole)
    (slash : p ≠ .mark '/') (sits : p.Sits rest) (apart : p.IsApart rest) :
    scan (textOf (p :: rest)) = p.unsettled :: scan (textOf rest) := by
  have here := whole p List.mem_cons_self
  have others : ∀ q ∈ rest, q.IsWhole := fun q member => whole q (List.mem_cons_of_mem p member)
  rw [textOf_cons]
  cases p with
  | string s => exact scan_string (stringTail_self here (textOf rest))
  | word w =>
    obtain ⟨c, w, rfl⟩ := List.exists_cons_of_ne_nil here.1
    exact scan_word here.2 (head_textOf others (apart rfl))
  | mark c => exact scan_mark here.1 (fun same => slash (congrArg _ same)) here.2 _
  | block inner =>
    have text : (Piece.block inner).text ++ textOf rest =
        '/' :: '*' :: (inner ++ '*' :: '/' :: textOf rest) := by simp [Piece.text]
    rw [text]
    exact scan_block sits (textOf rest)
  | line inner =>
    apply scan_line sits.1
    rcases sits.2 with rfl | feed
    · exact .inl rfl
    · obtain ⟨more, rfl⟩ := List.head?_eq_some_iff.1 feed
      exact .inr rfl
  | comma => exact scan_mark (by decide) (by decide) (by decide) _

/-- Pieces that are laid out in order are found again in their text. -/
theorem scan_textOf {ps : List Piece} (whole : ∀ p ∈ ps, p.IsWhole) (slash : .mark '/' ∉ ps)
    (sits : Everywhere Piece.Sits ps) (apart : Everywhere Piece.IsApart ps) :
    scan (textOf ps) = ps.map Piece.unsettled := by
  induction ps with
  | nil => simp [scan]
  | cons p rest ih =>
    rw [List.mem_cons, not_or] at slash
    rw [scan_cons whole (Ne.symm slash.1) sits.1 apart.1, List.map_cons,
      ih (fun q member => whole q (List.mem_cons_of_mem p member)) slash.2 sits.2 apart.2]

theorem settle_unsettled {ps : List Piece} (sits : Everywhere Piece.Sits ps)
    (kept : Everywhere Piece.IsKept ps) : settle (ps.map Piece.unsettled) = ps := by
  induction ps with
  | nil => rfl
  | cons p rest ih =>
    rw [List.map_cons, settle, ih sits.2 kept.2, closes_unsettled]
    cases p with
    | comma =>
      rw [if_pos ⟨rfl, sits.1⟩]
    | mark c =>
      have stays : ¬ (Piece.mark c = .mark ',' ∧ closes rest = true) := by
        rintro ⟨comma, next⟩
        cases (kept.1 comma).symm.trans next
      exact congrArg (· :: rest) (if_neg stays)
    | string s | word w | block inner | line inner => rfl

theorem head_scan {text : List Char} (ends : EndsWord text) :
    (scan text).head?.all (!·.isWord) = true := by
  unfold scan
  split
  · rfl
  rename_i c rest
  split
  · split <;> rfl
  split
  · rfl
  split
  · split <;> rfl
  split
  · rename_i word
    cases (ends c rfl).symm.trans word
  · rfl

theorem apart_scan (text : List Char) : Everywhere Piece.IsApart (scan text) := by
  fun_induction scan text with
  | case1 => trivial
  | case2 _ _ _ _ ih | case3 _ _ ih | case4 _ _ _ _ ih | case5 _ _ _ _ _ _ _ _ ih
  | case6 _ _ _ _ _ _ ih | case8 _ _ _ _ _ _ ih =>
    exact ⟨fun word => (by cases word), ih⟩
  | case7 c rest _ _ _ _ ih => exact ⟨fun _ => head_scan (endsWord_dropWhile rest), ih⟩

theorem sits_scan (text : List Char) : Everywhere Piece.Sits (scan text) := by
  fun_induction scan text with
  | case1 => trivial
  | case2 _ _ _ _ ih | case3 _ _ ih | case6 _ _ _ _ _ _ ih | case7 _ _ _ _ _ _ ih
  | case8 _ _ _ _ _ _ ih => exact ⟨trivial, ih⟩
  | case5 c rest _ _ _ inner rest' found ih => exact ⟨splitBlock?_inner found, ih⟩
  | case4 c rest _ _ ih =>
    refine ⟨⟨fun feed => ?_, ?_⟩, ih⟩
    · simpa using List.mem_takeWhile_imp feed
    · cases left : rest.dropWhile (· ≠ '\n') with
      | nil => exact .inl (by simp [scan])
      | cons d more =>
        have stop := List.head?_dropWhile_not (· ≠ '\n') rest
        rw [left] at stop
        obtain rfl : d = '\n' := by simpa using stop
        rw [scan_mark (by decide) (by decide) (by decide)]
        exact .inr rfl

theorem sits_settle {ps : List Piece} (sits : Everywhere Piece.Sits ps) :
    Everywhere Piece.Sits (settle ps) := by
  induction ps with
  | nil => trivial
  | cons p rest ih =>
    rw [settle]
    refine ⟨?_, ih sits.2⟩
    split
    · rename_i drop
      exact (closes_settle rest).trans drop.2
    · have here := sits.1
      cases p with
      | string s | word w | mark c => trivial
      | block inner => exact here
      | comma => exact (closes_settle rest).trans here
      | line inner =>
        refine ⟨here.1, ?_⟩
        rcases here.2 with rfl | feed
        · exact .inl rfl
        · obtain ⟨more, rfl⟩ := List.head?_eq_some_iff.1 feed
          exact .inr rfl

theorem textOf_settle (ps : List Piece) : textOf (settle ps) = textOf ps := by
  induction ps with
  | nil => rfl
  | cons p rest ih =>
    rw [settle, textOf_cons, textOf_cons, ih]
    split
    · rename_i drop
      rw [drop.1]
      rfl
    · rfl

theorem textOf_pieces (text : List Char) : textOf (pieces text) = text :=
  (textOf_settle _).trans (textOf_scan text)

end PluginBuild.Json
