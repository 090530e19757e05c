import PluginBuild.Json.Reader
import PluginBuild.Proofs.Json.Layout

/-!
Texts that differ in the white space between their pieces only, and the pieces of a text that belong
where they stand when the text is read.
-/

namespace PluginBuild.Json

theorem isSpace_cases {c : Char} (space : isSpace c = true) :
    c = ' ' ∨ c = '\t' ∨ c = '\n' ∨ c = '\r' := by
  simpa [isSpace, or_assoc] using space

theorem isWordChar_of_isSpace {c : Char} (space : isSpace c = true) : isWordChar c = false := by
  rcases isSpace_cases space with rfl | rfl | rfl | rfl <;> rfl

namespace Piece

def isSpace : Piece → Bool
  | mark c => Json.isSpace c
  | _ => false

def isPlain : Piece → Bool
  | string _ | word _ => true
  | mark c => ['[', ']', '\x7b', '\x7d', ':', ','].contains c || Json.isSpace c
  | _ => false

def beginsValue : Piece → Bool
  | string _ | word _ => true
  | p => p.isOpening

/-- A piece stands as in a text that is read. -/
def Belongs (p : Piece) (rest : List Piece) : Prop := p.isPlain = true ∧ p.IsKept rest

theorem isGap_of_isSpace {p : Piece} (space : p.isSpace = true) : p.isGap = true := by
  cases p with
  | mark c => rcases isSpace_cases space with rfl | rfl | rfl | rfl <;> rfl
  | string s | word w | block inner | line inner | comma => cases space

theorem beginsValue_facts {p : Piece} (begins : p.beginsValue = true) :
    p.isGap = false ∧ p.isClosing = false ∧ p.isSpace = false := by
  cases p with
  | string s | word w => exact ⟨rfl, rfl, rfl⟩
  | mark c =>
    have cases' : c = '[' ∨ c = '\x7b' := by simpa [beginsValue, isOpening] using begins
    rcases cases' with rfl | rfl <;> exact ⟨rfl, rfl, rfl⟩
  | block inner | line inner | comma => cases begins

theorem belongs_of_beginsValue {p : Piece} (begins : p.beginsValue = true) (rest : List Piece) :
    p.Belongs rest := by
  cases p with
  | string s | word w => exact ⟨rfl, nofun⟩
  | mark c =>
    have cases' : c = '[' ∨ c = '\x7b' := by simpa [beginsValue, isOpening] using begins
    rcases cases' with rfl | rfl <;> exact ⟨rfl, nofun⟩
  | block inner | line inner | comma => cases begins

end Piece

def solid (ps : List Piece) : List Piece := ps.filter (!·.isSpace)

theorem solid_cons {p : Piece} (space : p.isSpace = false) (ps : List Piece) :
    solid (p :: ps) = p :: solid ps := by
  rw [solid, List.filter_cons_of_pos (by simp [space])]
  rfl

/-- Texts that differ in the white space between their pieces only. -/
def Alike (x y : List Char) : Prop := solid (scan x) = solid (scan y)

/-- A text that does not begin with white space. -/
def IsTrimmed (x : List Char) : Prop := ∀ c ∈ x.head?, isSpace c = false

variable {x y : List Char}

theorem scan_eq_cons {p : Piece} {ps : List Piece} (scanned : scan x = p :: ps) :
    ∃ x', x = p.text ++ x' ∧ ps = scan x' ∧ (p.isWord = true → EndsWord x') := by
  have behind : ∃ x', ps = scan x' ∧ (p.isWord = true → EndsWord x') := by
    -- Every branch goes on at the text behind its piece; only one of them is a word.
    unfold scan at scanned
    split at scanned
    · cases scanned
    rename_i c rest
    split at scanned
    · split at scanned
      · obtain ⟨rfl, rfl⟩ := List.cons.inj scanned
        exact ⟨_, rfl, fun word => by cases word⟩
      · obtain ⟨rfl, rfl⟩ := List.cons.inj scanned
        exact ⟨_, rfl, fun word => by cases word⟩
    split at scanned
    · obtain ⟨rfl, rfl⟩ := List.cons.inj scanned
      exact ⟨_, rfl, fun word => by cases word⟩
    split at scanned
    · split at scanned
      · obtain ⟨rfl, rfl⟩ := List.cons.inj scanned
        exact ⟨_, rfl, fun word => by cases word⟩
      · obtain ⟨rfl, rfl⟩ := List.cons.inj scanned
        exact ⟨_, rfl, fun word => by cases word⟩
    split at scanned
    · obtain ⟨rfl, rfl⟩ := List.cons.inj scanned
      exact ⟨_, rfl, fun _ => endsWord_dropWhile rest⟩
    · obtain ⟨rfl, rfl⟩ := List.cons.inj scanned
      exact ⟨_, rfl, fun word => by cases word⟩
  obtain ⟨x', rfl, ends⟩ := behind
  have whole := textOf_scan x
  rw [scanned, textOf_cons, textOf_scan] at whole
  exact ⟨x', whole.symm, rfl, ends⟩

theorem scan_space {c : Char} (space : isSpace c = true) (x : List Char) :
    scan (c :: x) = .mark c :: scan x := by
  rcases isSpace_cases space with rfl | rfl | rfl | rfl <;>
    exact scan_mark (by decide) (by decide) (by decide) x

theorem scan_skipSpace (x : List Char) :
    ∃ spaces, (∀ p ∈ spaces, p.isSpace = true) ∧ scan x = spaces ++ scan (skipSpace x) := by
  induction x with
  | nil => exact ⟨[], by simp, rfl⟩
  | cons c x ih =>
    unfold skipSpace
    cases space : isSpace c with
    | true =>
      obtain ⟨spaces, all, same⟩ := ih
      refine ⟨.mark c :: spaces, ?_, ?_⟩
      · rintro p (_ | ⟨_, later⟩)
        · exact space
        · exact all p later
      · rw [List.dropWhile_cons_of_pos space, scan_space space, same]
        rfl
    | false =>
      rw [List.dropWhile_cons_of_neg (by simp [space])]
      exact ⟨[], by simp, rfl⟩

theorem solid_skipSpace (x : List Char) : solid (scan (skipSpace x)) = solid (scan x) := by
  obtain ⟨spaces, all, same⟩ := scan_skipSpace x
  have none : spaces.filter (!·.isSpace) = [] := by
    rw [List.filter_eq_nil_iff]
    intro p member
    simp [all p member]
  rw [same, solid, solid, List.filter_append, none, List.nil_append]

theorem closes_skipSpace (x : List Char) : closes (scan (skipSpace x)) = closes (scan x) := by
  obtain ⟨spaces, all, same⟩ := scan_skipSpace x
  rw [same]
  clear same
  induction spaces with
  | nil => rfl
  | cons p spaces ih =>
    rw [List.cons_append, closes_cons, if_pos (Piece.isGap_of_isSpace (all p List.mem_cons_self))]
    exact ih fun q member => all q (List.mem_cons_of_mem p member)

theorem belongs_of_skipSpace (belongs : Everywhere Piece.Belongs (scan (skipSpace x))) :
    Everywhere Piece.Belongs (scan x) := by
  obtain ⟨spaces, all, same⟩ := scan_skipSpace x
  rw [same]
  clear same
  induction spaces with
  | nil => exact belongs
  | cons p spaces ih =>
    have space := all p List.mem_cons_self
    refine ⟨⟨?_, ?_⟩, ih fun q member => all q (List.mem_cons_of_mem p member)⟩
    · cases p with
      | mark c =>
        have plain : Json.isSpace c = true := space
        simp [Piece.isPlain, plain]
      | string s | word w | block inner | line inner | comma => cases space
    · rintro rfl
      cases space

theorem isTrimmed_skipSpace (x : List Char) : IsTrimmed (skipSpace x) := by
  intro c first
  have stop := List.head?_dropWhile_not isSpace x
  rw [show x.dropWhile isSpace = skipSpace x from rfl, Option.mem_def.1 first] at stop
  simpa using stop

theorem Alike.symm (alike : Alike x y) : Alike y x := Eq.symm alike

theorem Alike.skip (alike : Alike x y) : Alike (skipSpace x) (skipSpace y) := by
  unfold Alike
  rw [solid_skipSpace, solid_skipSpace]
  exact alike

theorem IsTrimmed.isSpace {p : Piece} {ps : List Piece} (trimmed : IsTrimmed x)
    (scanned : scan x = p :: ps) : p.isSpace = false := by
  obtain ⟨x', whole, -, -⟩ := scan_eq_cons scanned
  cases p with
  | mark c =>
    apply trimmed
    rw [whole]
    rfl
  | string s | word w | block inner | line inner | comma => rfl

theorem Alike.cons {p : Piece} {ps : List Piece} (alike : Alike x y) (scanned : scan x = p :: ps)
    (space : p.isSpace = false) (trimmed : IsTrimmed y) :
    ∃ x' y', x = p.text ++ x' ∧ y = p.text ++ y' ∧ ps = scan x' ∧ Alike x' y' ∧
      (p.isWord = true → EndsWord x' ∧ EndsWord y') := by
  obtain ⟨x', whole, rfl, ends⟩ := scan_eq_cons scanned
  unfold Alike at alike
  rw [scanned, solid_cons space] at alike
  cases there : scan y with
  | nil =>
    rw [there] at alike
    exact nomatch alike
  | cons q qs =>
    obtain ⟨y', whole', rfl, ends'⟩ := scan_eq_cons there
    rw [there, solid_cons (trimmed.isSpace there)] at alike
    obtain ⟨rfl, later⟩ := List.cons.inj alike
    exact ⟨x', y', whole, whole', rfl, later, fun word => ⟨ends word, ends' word⟩⟩

def isSign (c : Char) : Bool := ['[', ']', '\x7b', '\x7d', ':', ','].contains c

theorem isSign_cases {c : Char} (sign : isSign c = true) :
    scan (c :: x) = .mark c :: scan x ∧ isSpace c = false ∧ isWordChar c = false := by
  have cases' : c = '[' ∨ c = ']' ∨ c = '\x7b' ∨ c = '\x7d' ∨ c = ':' ∨ c = ',' := by
    simpa [isSign, or_assoc] using sign
  rcases cases' with rfl | rfl | rfl | rfl | rfl | rfl <;>
    exact ⟨scan_mark (by decide) (by decide) (by decide) x, by decide, by decide⟩

theorem isSign_of_isOpening {c : Char} (opens : (Piece.mark c).isOpening = true) :
    isSign c = true ∧ c ≠ ',' := by
  have cases' : c = '[' ∨ c = '\x7b' := by simpa [Piece.isOpening] using opens
  rcases cases' with rfl | rfl <;> decide

theorem Alike.sign {c : Char} (sign : isSign c = true) (alike : Alike (c :: x) y)
    (trimmed : IsTrimmed y) : ∃ y', y = c :: y' ∧ Alike x y' := by
  obtain ⟨scanned, space, -⟩ := isSign_cases (x := x) sign
  obtain ⟨x', y', whole, rfl, -, alike, -⟩ := alike.cons scanned space trimmed
  obtain ⟨-, rfl⟩ := List.cons.inj whole
  exact ⟨y', rfl, alike⟩

theorem Alike.next {c : Char} (sign : isSign c = true) (alike : Alike x y) {x' : List Char}
    (next : skipSpace x = c :: x') : ∃ y', skipSpace y = c :: y' ∧ Alike x' y' := by
  have both := alike.skip
  rw [next] at both
  exact both.sign sign (isTrimmed_skipSpace y)

theorem endsWord_of_next {c : Char} (sign : isSign c = true) {x' : List Char}
    (next : skipSpace x = c :: x') : EndsWord x := by
  intro d first
  cases x with
  | nil => cases first
  | cons e x =>
    cases first
    cases space : isSpace d with
    | true => exact isWordChar_of_isSpace space
    | false =>
      rw [skipSpace, List.dropWhile_cons_of_neg (by simp [space])] at next
      obtain ⟨rfl, -⟩ := List.cons.inj next
      exact (isSign_cases (x := x) sign).2.2

theorem belongs_of_sign {c : Char} (sign : isSign c = true)
    (kept : c = ',' → closes (scan x) = false) (belongs : Everywhere Piece.Belongs (scan x)) :
    Everywhere Piece.Belongs (scan (c :: x)) := by
  rw [(isSign_cases sign).1]
  refine ⟨⟨?_, fun comma => kept (Piece.mark.inj comma)⟩, belongs⟩
  have plain : ['[', ']', '\x7b', '\x7d', ':', ','].contains c = true := sign
  simp only [Piece.isPlain, plain, Bool.true_or]

theorem belongs_of_next {c : Char} (sign : isSign c = true) {x' : List Char}
    (next : skipSpace x = c :: x') (kept : c = ',' → closes (scan x') = false)
    (belongs : Everywhere Piece.Belongs (scan x')) : Everywhere Piece.Belongs (scan x) := by
  apply belongs_of_skipSpace
  rw [next]
  exact belongs_of_sign sign kept belongs

theorem endsWord_of_skipSpace_nil (none : skipSpace x = []) : EndsWord x := by
  intro c first
  cases x with
  | nil => cases first
  | cons d x =>
    cases first
    rw [skipSpace, List.dropWhile_eq_nil_iff] at none
    exact isWordChar_of_isSpace (none c List.mem_cons_self)

theorem Alike.nil (alike : Alike x y) (none : skipSpace x = []) : skipSpace y = [] := by
  have both := alike.skip
  rw [none] at both
  cases there : scan (skipSpace y) with
  | nil => rw [← textOf_scan (skipSpace y), there, textOf_nil]
  | cons p ps =>
    unfold Alike at both
    rw [there, solid_cons ((isTrimmed_skipSpace y).isSpace there)] at both
    simp [scan, solid] at both

end PluginBuild.Json
