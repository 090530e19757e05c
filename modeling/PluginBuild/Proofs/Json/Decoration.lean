import PluginBuild.Proofs.Json.Reading
import PluginBuild.Settings

/-!
Texts that are decorated with comments and trailing commas. Stripping them gives the text that was
decorated, whatever is in the comments.
-/

namespace PluginBuild.Json

/-- No comma that is dropped comes right behind an opening bracket. -/
def Piece.IsFilled (p : Piece) (rest : List Piece) : Prop :=
  p.isOpening = true → next? rest ≠ some .comma

instance (p : Piece) (rest : List Piece) : Decidable (p.IsFilled rest) :=
  inferInstanceAs (Decidable (p.isOpening = true → next? rest ≠ some .comma))

/-- A text comes from another by putting in block comments anywhere between its pieces, line comments
in front of its line ends and at its end, and commas behind what is last in brackets, one for each
closing bracket at most. -/
def Decorates (plain text : List Char) : Prop :=
  ∃ ps, textOf ps = text ∧ ps.filter (·.isToken) = scan plain ∧ Everywhere Piece.Sits ps ∧
    Everywhere Piece.IsFilled ps

variable {plain text : List Char} {ps : List Piece}

theorem isPlain_of_mem {p : Piece} (belongs : Everywhere Piece.Belongs ps) (member : p ∈ ps) :
    p.isPlain = true := by
  obtain ⟨rest, here⟩ := belongs.of_mem member
  exact here.1

theorem closed_of_belongs (belongs : Everywhere Piece.Belongs ps) : .mark '"' ∉ ps := by
  intro member
  cases isPlain_of_mem belongs member

theorem slashless_of_belongs (belongs : Everywhere Piece.Belongs ps) : .mark '/' ∉ ps := by
  intro member
  cases isPlain_of_mem belongs member

theorem mark_mem_tokens {c : Char} : .mark c ∈ ps.filter (·.isToken) ↔ .mark c ∈ ps := by
  rw [List.mem_filter]
  exact and_iff_left rfl

theorem mark_mem_unsettled {c : Char} (member : .mark c ∈ ps.map Piece.unsettled) :
    c = ',' ∨ .mark c ∈ ps := by
  obtain ⟨p, inside, same⟩ := List.mem_map.1 member
  cases p with
  | comma =>
    cases same
    exact .inl rfl
  | mark d =>
    cases same
    exact .inr inside
  | string s | word w | block inner | line inner => cases same

theorem isWhole_of_tokens (whole : ∀ p ∈ ps.filter (·.isToken), p.IsWhole) : ∀ p ∈ ps, p.IsWhole := by
  intro p member
  cases token : p.isToken with
  | true => exact whole p (List.mem_filter.2 ⟨member, token⟩)
  | false =>
    cases p with
    | block inner | line inner | comma => trivial
    | string s | word w | mark c => cases token

theorem apart_of_tokens (apart : Everywhere Piece.IsApart (ps.filter (·.isToken))) :
    Everywhere Piece.IsApart ps := by
  refine apart.of_filter.imp fun p rest here word => ?_
  have token : p.isToken = true := by cases p <;> first | rfl | cases word
  have next := here token word
  cases rest with
  | nil => rfl
  | cons q rest =>
    cases q with
    | word w => cases next
    | string s | mark c | block inner | line inner | comma => rfl

theorem kept_of_tokens (belongs : Everywhere Piece.Belongs (ps.filter (·.isToken))) :
    Everywhere Piece.IsKept ps := by
  refine belongs.of_filter.imp ?_
  rintro p rest here rfl
  -- A closing bracket behind comments is the next token as well.
  have open' := (here rfl).2 rfl
  rw [← Bool.not_eq_true]
  intro closed
  cases open'.symm.trans (closes_tokens closed)

theorem pieces_of_tokens (belongs : Everywhere Piece.Belongs (scan plain))
    (tokens : ps.filter (·.isToken) = scan plain) (sits : Everywhere Piece.Sits ps) :
    scan (textOf ps) = ps.map Piece.unsettled ∧ pieces (textOf ps) = ps := by
  have whole : ∀ p ∈ ps, p.IsWhole := isWhole_of_tokens fun p member =>
    isWhole_of_mem_scan (closed_of_belongs belongs) p (tokens ▸ member)
  have slash : .mark '/' ∉ ps := by
    rw [← mark_mem_tokens, tokens]
    exact slashless_of_belongs belongs
  have apart : Everywhere Piece.IsApart ps := apart_of_tokens (tokens ▸ apart_scan plain)
  have scanned := scan_textOf whole slash sits apart
  refine ⟨scanned, ?_⟩
  rw [pieces, scanned]
  exact settle_unsettled sits (kept_of_tokens (tokens ▸ belongs))

theorem closed_of_unsettled (belongs : Everywhere Piece.Belongs (ps.filter (·.isToken))) :
    .mark '"' ∉ ps.map Piece.unsettled := by
  intro member
  rcases mark_mem_unsettled member with other | inside
  · cases other
  · exact closed_of_belongs belongs (mark_mem_tokens.2 inside)

theorem tokens_scan (belongs : Everywhere Piece.Belongs (scan text)) :
    (scan text).filter (·.isToken) = scan text := by
  rw [List.filter_eq_self]
  intro p member
  have here := isPlain_of_mem belongs member
  cases p with
  | string s | word w | mark c => rfl
  | block inner | line inner | comma => cases here

theorem filled_of_no_comma (none : .comma ∉ ps) : Everywhere Piece.IsFilled ps := by
  induction ps with
  | nil => trivial
  | cons p rest ih =>
    rw [List.mem_cons, not_or] at none
    refine ⟨fun _ next => ?_, ih none.2⟩
    exact none.2 (List.mem_of_find?_eq_some next)

theorem decorates_self (belongs : Everywhere Piece.Belongs (scan text)) : Decorates text text :=
  ⟨scan text, textOf_scan text, tokens_scan belongs, sits_scan text,
    filled_of_no_comma (comma_notMem_scan text)⟩

theorem strip_of_belongs (belongs : Everywhere Piece.Belongs (scan plain))
    (decorates : Decorates plain text) : strip text = plain := by
  obtain ⟨ps, rfl, tokens, sits, -⟩ := decorates
  obtain ⟨scanned, settled⟩ := pieces_of_tokens belongs tokens sits
  have closed : .mark '"' ∉ scan (textOf ps) := by
    rw [scanned]
    exact closed_of_unsettled (tokens ▸ belongs)
  rw [strip_eq closed, settled, tokens, textOf_scan]

/-- The members of the value that a file of settings has. -/
def membersOf : Value → Except SettingsError (List (String × Value))
  | .object members => .ok members
  | _ => .error .notAnObject

theorem membersOfText_of_parse {v : Value} (read : parse (strip text) = .ok v) (path : Path) :
    membersOfText path text = membersOf v := by
  unfold membersOfText
  dsimp only
  rw [read]
  cases v <;> rfl

/-- Whatever text that is read is decorated, stripping gives it back, and the members that are read
from the decorated text are those of its value. -/
theorem strip_of_decorates {v : Value} (read : parse plain = .ok v) :
    Decorates plain plain ∧ ∀ text, Decorates plain text → strip text = plain ∧
      ∀ path, membersOfText path text = membersOfText path plain ∧
        membersOfText path text = membersOf v := by
  have belongs := (parse_reads read).1
  refine ⟨decorates_self belongs, fun text decorates => ?_⟩
  have stripped := strip_of_belongs belongs decorates
  have itself := strip_of_belongs belongs (decorates_self belongs)
  refine ⟨stripped, fun path => ?_⟩
  have here := membersOfText_of_parse (stripped ▸ read) path
  have there := membersOfText_of_parse (itself ▸ read) path
  exact ⟨here.trans there.symm, here⟩

/-- An array with a comment in front of its line end, and with a comma and another comment behind
it. -/
theorem strip_of_decorated_array :
    let plain := "[1\n]".toList
    let text := "[1//]\n,/*\"*/]".toList
    parse plain = .ok (.array [.int 1]) ∧ Decorates plain text ∧ strip text = plain := by
  intro plain text
  have read : parse plain = .ok (.array [.int 1]) := rfl
  have decorates : Decorates plain text := by
    refine ⟨[.mark '[', .word ['1'], .line [']'], .mark '\n', .comma, .block ['"'], .mark ']'],
      rfl, ?_, ?_, ?_⟩ <;> decide +kernel
  exact ⟨read, decorates, ((strip_of_decorates read).2 text decorates).1⟩

end PluginBuild.Json
