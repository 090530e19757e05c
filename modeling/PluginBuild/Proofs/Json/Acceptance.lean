import Mathlib
import PluginBuild.Proofs.Json.Decoration

/-!
Texts that are read once they are stripped. Such a text decorates what is read, unless stripping
repaired it: by dropping a comment out of a word, or a comma that nothing stands before, or by ending
a string where a comment was. Where no comment holds two words together, white space may take the place
of comments.
-/

namespace PluginBuild.Json

/-- Every quote begins a string that ends, and no word ends at a comment only to go on behind it. -/
structure IsSeparated (text : List Char) : Prop where
  closed : .mark '"' ∉ scan text
  apart : Everywhere Piece.IsApart ((pieces text).filter (·.isToken))

/-- Moreover no comma is dropped right behind an opening bracket. -/
structure IsTidy (text : List Char) : Prop extends IsSeparated text where
  filled : Everywhere Piece.IsFilled (pieces text)

def Piece.spaced : Piece → Piece
  | block _ | line _ => mark ' '
  | p => p

def spaced (text : List Char) : List Char := textOf ((pieces text).map Piece.spaced)

variable {text : List Char} {ps : List Piece}

theorem unsettled_of_token {p : Piece} (token : p.isToken = true) : p.unsettled = p := by
  cases p with
  | comma => cases token
  | string s | word w | mark c | block inner | line inner => rfl

theorem sits_of_token {p : Piece} (token : p.isToken = true) (rest : List Piece) : p.Sits rest := by
  cases p with
  | string s | word w | mark c => trivial
  | block inner | line inner | comma => cases token

theorem not_belongs_slash (x : List Char) : ¬ Everywhere Piece.Belongs (scan ('/' :: x)) := by
  intro belongs
  rw [scan, if_neg (by decide)] at belongs
  split at belongs
  · cases belongs.1.1
  split at belongs
  · split at belongs
    · cases belongs.1.1
    · cases belongs.1.1
  · cases belongs.1.1

theorem everywhere_sits_of_tokens (tokens : ∀ p ∈ ps, p.isToken = true) :
    Everywhere Piece.Sits ps := by
  induction ps with
  | nil => trivial
  | cons p rest ih =>
    exact ⟨sits_of_token (tokens p List.mem_cons_self) rest,
      ih fun q member => tokens q (List.mem_cons_of_mem p member)⟩

theorem scan_tokens (whole : ∀ p ∈ ps, p.IsWhole) (tokens : ∀ p ∈ ps, p.isToken = true)
    (slash : .mark '/' ∉ ps) (apart : Everywhere Piece.IsApart ps) : scan (textOf ps) = ps := by
  rw [scan_textOf whole slash (everywhere_sits_of_tokens tokens) apart]
  have same := List.map_congr_left fun p member => unsettled_of_token (tokens p member)
  rw [same, List.map_id']

theorem slashless_of_textOf (whole : ∀ p ∈ ps, p.IsWhole) (tokens : ∀ p ∈ ps, p.isToken = true)
    (apart : Everywhere Piece.IsApart ps) (belongs : Everywhere Piece.Belongs (scan (textOf ps))) :
    .mark '/' ∉ ps := by
  -- Were there one, the first of them would stay a slash, or begin a comment, in their text.
  induction ps with
  | nil => exact List.not_mem_nil
  | cons p rest ih =>
    have slash : p ≠ .mark '/' := by
      rintro rfl
      exact not_belongs_slash _ belongs
    rw [scan_cons whole slash (sits_of_token (tokens p List.mem_cons_self) rest) apart.1] at belongs
    rw [List.mem_cons, not_or]
    exact ⟨Ne.symm slash, ih (fun q member => whole q (List.mem_cons_of_mem p member))
      (fun q member => tokens q (List.mem_cons_of_mem p member)) apart.2 belongs.2⟩

theorem mem_of_mem_settle {p : Piece} (member : p ∈ settle ps) : p = .comma ∨ p ∈ ps := by
  induction ps with
  | nil => exact nomatch member
  | cons q rest ih =>
    rw [settle, List.mem_cons] at member
    rcases member with here | later
    · split at here
      · exact .inl here
      · exact .inr (here ▸ List.mem_cons_self)
    · exact (ih later).imp_right (List.mem_cons_of_mem q)

theorem isWhole_of_mem_pieces (closed : .mark '"' ∉ scan text) : ∀ p ∈ pieces text, p.IsWhole := by
  intro p member
  rcases mem_of_mem_settle member with rfl | inside
  · trivial
  · exact isWhole_of_mem_scan closed p inside

theorem IsSeparated.tokens (separated : IsSeparated text)
    (belongs : Everywhere Piece.Belongs (scan (strip text))) :
    scan (strip text) = (pieces text).filter (·.isToken) := by
  have whole : ∀ p ∈ (pieces text).filter (·.isToken), p.IsWhole := fun p member =>
    isWhole_of_mem_pieces separated.closed p (List.mem_filter.1 member).1
  have tokens : ∀ p ∈ (pieces text).filter (·.isToken), p.isToken = true := fun p member =>
    (List.mem_filter.1 member).2
  rw [strip_eq separated.closed] at belongs ⊢
  exact scan_tokens whole tokens (slashless_of_textOf whole tokens separated.apart belongs)
    separated.apart

theorem decorates_of_isTidy (belongs : Everywhere Piece.Belongs (scan (strip text)))
    (tidy : IsTidy text) : Decorates (strip text) text :=
  ⟨pieces text, textOf_pieces text, (tidy.tokens belongs).symm, sits_settle (sits_scan text), tidy.filled⟩

theorem isTidy_of_decorates (belongs : Everywhere Piece.Belongs (scan (strip text)))
    (decorates : Decorates (strip text) text) : IsTidy text := by
  obtain ⟨ps, whole, tokens, sits, filled⟩ := decorates
  obtain ⟨scanned, settled⟩ := pieces_of_tokens belongs tokens sits
  rw [whole] at scanned settled
  refine ⟨⟨?_, ?_⟩, ?_⟩
  · rw [scanned]
    exact closed_of_unsettled (tokens ▸ belongs)
  · rw [settled, tokens]
    exact apart_scan _
  · rw [settled]
    exact filled

theorem closes_spaced (ps : List Piece) : closes (ps.map Piece.spaced) = closes ps := by
  induction ps with
  | nil => rfl
  | cons p rest ih =>
    rw [List.map_cons, closes_cons, closes_cons, ih]
    cases p <;> rfl

theorem solid_spaced (ps : List Piece) :
    solid ((ps.map Piece.spaced).filter (·.isToken)) = solid (ps.filter (·.isToken)) := by
  induction ps with
  | nil => rfl
  | cons p rest ih =>
    cases p with
    | block inner | line inner | comma => exact ih
    | string s | word w => exact congrArg (_ :: ·) ih
    | mark c =>
      show solid (.mark c :: (rest.map Piece.spaced).filter (·.isToken)) =
        solid (.mark c :: rest.filter (·.isToken))
      unfold solid at ih ⊢
      rw [List.filter_cons, List.filter_cons, ih]

theorem length_spaced (ps : List Piece) : (textOf (ps.filter (·.isToken))).length ≤
    (textOf ((ps.map Piece.spaced).filter (·.isToken))).length := by
  have longer : ∀ (p : Piece) {xs ys : List Piece}, (textOf xs).length ≤ (textOf ys).length →
      (textOf (p :: xs)).length ≤ (textOf (p :: ys)).length := by
    intro p xs ys shorter
    rw [textOf_cons, textOf_cons, List.length_append, List.length_append]
    exact Nat.add_le_add_left shorter _
  induction ps with
  | nil => exact Nat.le_refl _
  | cons p rest ih =>
    cases p with
    | string s | word w | mark c => exact longer _ ih
    | block inner | line inner => exact Nat.le_succ_of_le ih
    | comma => exact ih

theorem sits_spaced (sits : Everywhere Piece.Sits ps) :
    Everywhere Piece.Sits (ps.map Piece.spaced) := by
  induction ps with
  | nil => trivial
  | cons p rest ih =>
    refine ⟨?_, ih sits.2⟩
    cases p with
    | comma => exact (closes_spaced rest).trans sits.1
    | string s | word w | mark c | block inner | line inner => trivial

theorem kept_spaced (kept : Everywhere Piece.IsKept ps) :
    Everywhere Piece.IsKept (ps.map Piece.spaced) := by
  induction ps with
  | nil => trivial
  | cons p rest ih =>
    refine ⟨fun comma => ?_, ih kept.2⟩
    rw [closes_spaced]
    apply kept.1
    cases p with
    | block inner | line inner => cases comma
    | string s | word w | mark c | comma => exact comma

theorem head_spaced (ps : List Piece) (apart : (ps.filter (·.isToken)).head?.all (!·.isWord) = true) :
    ((ps.map Piece.spaced).filter (·.isToken)).head?.all (!·.isWord) = true := by
  induction ps with
  | nil => rfl
  | cons p rest ih =>
    cases p with
    | string s | word w | mark c => exact apart
    | block inner | line inner => rfl
    | comma => exact ih apart

theorem apart_spaced (apart : Everywhere Piece.IsApart (ps.filter (·.isToken))) :
    Everywhere Piece.IsApart ((ps.map Piece.spaced).filter (·.isToken)) := by
  induction ps with
  | nil => trivial
  | cons p rest ih =>
    cases p with
    | string s | mark c => exact ⟨nofun, ih apart.2⟩
    | word w => exact ⟨fun word => head_spaced rest (apart.1 word), ih apart.2⟩
    | block inner | line inner => exact ⟨nofun, ih apart⟩
    | comma => exact ih apart

theorem isWhole_spaced (whole : ∀ p ∈ ps, p.IsWhole) : ∀ q ∈ ps.map Piece.spaced, q.IsWhole := by
  intro q member
  obtain ⟨p, inside, rfl⟩ := List.mem_map.1 member
  have here := whole p inside
  cases p with
  | block inner | line inner => exact ⟨by decide, by decide⟩
  | string s | word w | mark c | comma => exact here

theorem IsSeparated.mark_mem_strip (separated : IsSeparated text)
    (belongs : Everywhere Piece.Belongs (scan (strip text))) {c : Char} (solid : c ≠ ' ')
    (member : .mark c ∈ (pieces text).map Piece.spaced) : .mark c ∈ scan (strip text) := by
  obtain ⟨p, inside, same⟩ := List.mem_map.1 member
  rw [separated.tokens belongs, mark_mem_tokens]
  cases p with
  | block inner | line inner =>
    cases same
    exact absurd rfl solid
  | string s | word w | mark d | comma => exact same ▸ inside

theorem IsSeparated.slashless_spaced (separated : IsSeparated text)
    (belongs : Everywhere Piece.Belongs (scan (strip text))) :
    .mark '/' ∉ (pieces text).map Piece.spaced :=
  fun member => slashless_of_belongs belongs (separated.mark_mem_strip belongs (by decide) member)

theorem pieces_spaced (separated : IsSeparated text)
    (belongs : Everywhere Piece.Belongs (scan (strip text))) :
    .mark '"' ∉ scan (spaced text) ∧ pieces (spaced text) = (pieces text).map Piece.spaced := by
  have sits := sits_spaced (sits_settle (sits_scan text))
  have scanned : scan (spaced text) = ((pieces text).map Piece.spaced).map Piece.unsettled := by
    apply scan_textOf (isWhole_spaced (isWhole_of_mem_pieces separated.closed)) _ sits
    · exact apart_of_tokens (apart_spaced separated.apart)
    · exact separated.slashless_spaced belongs
  constructor
  · rw [scanned]
    intro member
    rcases mark_mem_unsettled member with other | inside
    · cases other
    · exact closed_of_belongs belongs (separated.mark_mem_strip belongs (by decide) inside)
  · -- No closing bracket comes next to a comma that is kept, since none does among the tokens.
    have kept : Everywhere Piece.IsKept ((pieces text).map Piece.spaced) := by
      apply kept_spaced
      apply kept_of_tokens
      rw [← separated.tokens belongs]
      exact belongs
    rw [pieces, scanned]
    exact settle_unsettled sits kept

/-- A text whose comments do not hold its words together reads alike with white space in their place. -/
theorem parse_spaced (separated : IsSeparated text) {v : Value} (read : parse (strip text) = .ok v) :
    parse (strip (spaced text)) = .ok v := by
  obtain ⟨belongs, again⟩ := parse_reads read
  obtain ⟨closed, laid⟩ := pieces_spaced separated belongs
  have scanned : scan (strip (spaced text)) = (pieces (spaced text)).filter (·.isToken) := by
    rw [strip_eq closed]
    apply scan_tokens
    · exact fun p member => isWhole_of_mem_pieces closed p (List.mem_filter.1 member).1
    · exact fun p member => (List.mem_filter.1 member).2
    · rw [laid]
      exact fun member => separated.slashless_spaced belongs (List.mem_filter.1 member).1
    · rw [laid]
      exact apart_spaced separated.apart
  apply again
  · unfold Alike
    rw [scanned, laid, separated.tokens belongs]
    exact (solid_spaced (pieces text)).symm
  · rw [strip_eq closed, laid, strip_eq separated.closed]
    exact length_spaced (pieces text)

/-- Where a stripped text is read, the text decorates what is read exactly if it is tidy; and where no
comment holds its words together, the same is read with white space in place of its comments. -/
theorem accepted_texts {v : Value} (read : parse (strip text) = .ok v) :
    (Decorates (strip text) text ↔ IsTidy text) ∧
      (IsSeparated text → parse (strip (spaced text)) = .ok v ∧
        ∀ path, membersOfText path (spaced text) = membersOfText path text) := by
  have belongs := (parse_reads read).1
  refine ⟨⟨isTidy_of_decorates belongs, decorates_of_isTidy belongs⟩, fun separated => ?_⟩
  have again := parse_spaced separated read
  refine ⟨again, fun path => ?_⟩
  rw [membersOfText_of_parse again, membersOfText_of_parse read]

/-- An array with a block comment, and with a comma and a line comment behind what is last in it. -/
theorem accepted_array :
    let text := "[1/*]*/,2,//]\n]".toList
    parse (strip text) = .ok (.array [.int 1, .int 2]) ∧ Decorates (strip text) text ∧
      parse (strip (spaced text)) = .ok (.array [.int 1, .int 2]) := by
  have stripped : strip "[1/*]*/,2,//]\n]".toList = "[1,2\n]".toList := by cbv
  have read : parse (strip "[1/*]*/,2,//]\n]".toList) = .ok (.array [.int 1, .int 2]) := by
    rw [stripped]
    cbv
  have laid : pieces "[1/*]*/,2,//]\n]".toList = [.mark '[', .word ['1'], .block [']'], .mark ',',
      .word ['2'], .comma, .line [']'], .mark '\n', .mark ']'] := by cbv
  have scanned : scan "[1/*]*/,2,//]\n]".toList = [.mark '[', .word ['1'], .block [']'], .mark ',',
      .word ['2'], .mark ',', .line [']'], .mark '\n', .mark ']'] := by cbv
  have separated : IsSeparated "[1/*]*/,2,//]\n]".toList :=
    ⟨by rw [scanned]; decide, by rw [laid]; decide⟩
  have tidy : IsTidy "[1/*]*/,2,//]\n]".toList := ⟨separated, by rw [laid]; decide⟩
  obtain ⟨decorates, again⟩ := accepted_texts read
  exact ⟨read, decorates.2 tidy, (again separated).1⟩

/-- A comment inside a number is dropped out of it, and nothing is read with white space in its
place. -/
theorem comment_in_number :
    let text := "\x7b\"a\": 1/**/2\x7d".toList
    parse (strip text) = .ok (.object [("a", .int 12)]) ∧ ¬ Decorates (strip text) text ∧
      ∀ v, parse (strip (spaced text)) ≠ .ok v := by
  have stripped : strip "\x7b\"a\": 1/**/2\x7d".toList = "\x7b\"a\": 12\x7d".toList := by cbv
  have read : parse (strip "\x7b\"a\": 1/**/2\x7d".toList) = .ok (.object [("a", .int 12)]) := by
    rw [stripped]
    cbv
  have laid : pieces "\x7b\"a\": 1/**/2\x7d".toList = [.mark '\x7b', .string ['a', '"'], .mark ':',
      .mark ' ', .word ['1'], .block [], .word ['2'], .mark '\x7d'] := by cbv
  refine ⟨read, fun decorates => ?_, fun v other => ?_⟩
  · have apart := (isTidy_of_decorates (parse_reads read).1 decorates).apart
    rw [laid] at apart
    exact absurd apart (by decide)
  · have words : spaced "\x7b\"a\": 1/**/2\x7d".toList = "\x7b\"a\": 1 2\x7d".toList := by
      rw [spaced, laid]
      cbv
    have kept : strip "\x7b\"a\": 1 2\x7d".toList = "\x7b\"a\": 1 2\x7d".toList := by cbv
    have failed : parse "\x7b\"a\": 1 2\x7d".toList = .error (.fault .comma ['2', '\x7d']) := by cbv
    rw [words, kept, failed] at other
    cases other

end PluginBuild.Json
