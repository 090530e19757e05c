import PluginBuild.Proofs.Json.Alike
import PluginBuild.Proofs.Json.Strings
import PluginBuild.Proofs.Json.Words

/-!
What a text that is read tells of its pieces, and that white space between them makes no difference.
-/

namespace PluginBuild.Json

variable {x : List Char}

/-- Something is read from a text, and the same is read from every text alike. -/
structure Reads {α : Type} (read : Nat → List Char → Reading α) (n : Nat) (x : List Char) (a : α)
    (rest : List Char) : Prop where
  begins : ∃ p ps, scan x = p :: ps ∧ p.beginsValue = true
  belongs : Everywhere Piece.Belongs (scan rest) → Everywhere Piece.Belongs (scan x)
  again : ∀ y, IsTrimmed y → Alike x y → ∀ m, n ≤ m → ∃ rest', read m y = .ok (a, rest') ∧
    Alike rest rest'

namespace Reads
variable {α β γ : Type} {read : Nat → List Char → Reading γ} {item : Nat → List Char → Reading α}
  {later : Nat → List Char → Reading β} {n : Nat} {a : α} {b : β} {r : γ}
  {rest rest₁ rest₂ : List Char}

theorem succ (reads : Reads (fun m => read (m + 1)) n x r rest) : Reads read (n + 1) x r rest := by
  refine ⟨reads.begins, reads.belongs, ?_⟩
  intro y trimmed alike m long
  obtain ⟨m, rfl, enough⟩ := exists_succ long
  exact reads.again y trimmed alike m enough

theorem closes (reads : Reads read n (skipSpace x) r rest) : closes (scan x) = false := by
  obtain ⟨p, ps, scanned, begins⟩ := reads.begins
  obtain ⟨solid, opens, -⟩ := Piece.beginsValue_facts begins
  rw [← closes_skipSpace, scanned, closes_cons, if_neg (by simp [solid]), opens]

theorem piece {p : Piece} (scanned : scan x = p :: scan rest) (begins : p.beginsValue = true)
    (step : ∀ m y, (p.isWord = true → EndsWord y) → read m (p.text ++ y) = .ok (r, y)) :
    Reads read n x r rest := by
  refine ⟨⟨p, _, scanned, begins⟩, ?_, ?_⟩
  · intro belongs
    rw [scanned]
    exact ⟨Piece.belongs_of_beginsValue begins _, belongs⟩
  · intro y trimmed alike m _
    obtain ⟨x', y', -, rfl, same, behind, ends⟩ :=
      alike.cons scanned (Piece.beginsValue_facts begins).2.2 trimmed
    refine ⟨y', step m y' fun word => (ends word).2, ?_⟩
    unfold Alike
    rw [same]
    exact behind

theorem last {c : Char} (here : Reads item n x a rest₁) (sign : isSign c = true) (other : c ≠ ',')
    (next : skipSpace rest₁ = c :: rest)
    (step : ∀ m y y₁ y₂, item m y = .ok (a, y₁) → skipSpace y₁ = c :: y₂ →
      read m y = .ok (r, y₂)) : Reads read n x r rest := by
  refine ⟨here.begins, ?_, ?_⟩
  · intro belongs
    apply here.belongs
    exact belongs_of_next sign next (fun same => absurd same other) belongs
  · intro y trimmed alike m long
    obtain ⟨y₁, found, alike⟩ := here.again y trimmed alike m long
    obtain ⟨y₂, next', alike⟩ := alike.next sign next
    exact ⟨y₂, step m y y₁ y₂ found next', alike⟩

theorem andThen {c : Char} (here : Reads item n x a rest₁) (sign : isSign c = true)
    (next : skipSpace rest₁ = c :: rest₂) (more : Reads later n (skipSpace rest₂) b rest)
    (step : ∀ m y y₁ y₂ y₃, item m y = .ok (a, y₁) → skipSpace y₁ = c :: y₂ →
      later m (skipSpace y₂) = .ok (b, y₃) → read m y = .ok (r, y₃)) : Reads read n x r rest := by
  refine ⟨here.begins, ?_, ?_⟩
  · intro belongs
    apply here.belongs
    apply belongs_of_next sign next (fun _ => more.closes)
    exact belongs_of_skipSpace (more.belongs belongs)
  · intro y trimmed alike m long
    obtain ⟨y₁, found, alike⟩ := here.again y trimmed alike m long
    obtain ⟨y₂, next', alike⟩ := alike.next sign next
    obtain ⟨y₃, found', alike⟩ := more.again _ (isTrimmed_skipSpace y₂) alike.skip m long
    exact ⟨y₃, step m y y₁ y₂ y₃ found next' found', alike⟩

theorem bracket {o : Char} (c : Char) (empty : γ) (held : Nat → List Char → Reading γ)
    (opens : (Piece.mark o).isOpening = true) (sign : isSign c = true) (other : c ≠ ',')
    (closed : ∀ m y y', skipSpace y = c :: y' → read m (o :: y) = .ok (empty, y'))
    (filled : ∀ m y, (∀ y', skipSpace y ≠ c :: y') → read m (o :: y) = held m (skipSpace y))
    (inner : ∀ x r rest, held n x = .ok (r, rest) → Reads held n x r rest)
    (found : read n (o :: x) = .ok (r, rest)) : Reads read n (o :: x) r rest := by
  obtain ⟨sign', kept⟩ := isSign_of_isOpening opens
  have scanned := (isSign_cases (x := x) sign').1
  by_cases shut : ∃ x', skipSpace x = c :: x'
  · obtain ⟨x', next⟩ := shut
    rw [closed n x x' next] at found
    cases found
    refine ⟨⟨_, _, scanned, opens⟩, ?_, ?_⟩
    · intro belongs
      apply belongs_of_sign sign' (fun same => absurd same kept)
      exact belongs_of_next sign next (fun same => absurd same other) belongs
    · intro y trimmed alike m _
      obtain ⟨y₁, rfl, behind⟩ := alike.sign sign' trimmed
      obtain ⟨y₂, next', behind⟩ := behind.next sign next
      exact ⟨y₂, closed m y₁ y₂ next', behind⟩
  · have holds := not_exists.1 shut
    rw [filled n x holds] at found
    have more := inner _ _ _ found
    refine ⟨⟨_, _, scanned, opens⟩, ?_, ?_⟩
    · intro belongs
      apply belongs_of_sign sign' (fun same => absurd same kept)
      exact belongs_of_skipSpace (more.belongs belongs)
    · intro y trimmed alike m long
      obtain ⟨y₁, rfl, behind⟩ := alike.sign sign' trimmed
      obtain ⟨y₂, found', rest'⟩ := more.again _ (isTrimmed_skipSpace y₁) behind.skip m long
      refine ⟨y₂, ?_, rest'⟩
      rw [filled m y₁, found']
      intro y' next
      -- The brackets of the other text are not empty, or those of this one would be.
      obtain ⟨x', next', -⟩ := behind.symm.next sign next
      exact holds x' next'

end Reads

theorem value_other {c : Char} (quote : c ≠ '"') (curly : c ≠ '\x7b') (square : c ≠ '[')
    (n depth : Nat) (x : List Char) : value (n + 1) depth (c :: x) = wordValue (c :: x) := by
  unfold value
  split
  · rename_i same
    exact absurd (List.cons.inj same).1 quote
  · rename_i same
    exact absurd (List.cons.inj same).1 curly
  · rename_i same
    exact absurd (List.cons.inj same).1 square
  · rfl

theorem value_word {c : Char} (word : isWordChar c = true) (n depth : Nat) (x : List Char) :
    value (n + 1) depth (c :: x) = wordValue (c :: x) :=
  value_other (ne_of_isWordChar word (by decide)) (ne_of_isWordChar word (by decide))
    (ne_of_isWordChar word (by decide)) n depth x

theorem wordValue_head {v : Value} {rest : List Char} (read : wordValue x = .ok (v, rest)) :
    ∃ c x', x = c :: x' ∧ isWordChar c = true := by
  cases x with
  | nil => exact nomatch read
  | cons c x =>
    refine ⟨c, x, rfl, ?_⟩
    rw [← Bool.not_eq_false]
    intro other
    have ends : EndsWord (c :: x) := by
      rintro d ⟨⟩
      exact other
    have none := wordValue_append ends []
    rw [List.nil_append, read] at none
    exact nomatch none

section
variable {n depth : Nat} {v : Value} {rest : List Char}

theorem reads_string (found : value (n + 1) depth ('"' :: x) = .ok (v, rest)) :
    Reads (value · depth ·) (n + 1) ('"' :: x) v rest := by
  obtain ⟨⟨text, behind⟩, read, eq⟩ := map_ok (found : (string ('"' :: x)).map _ = _)
  cases eq
  obtain ⟨s, tail, again⟩ := string_reads read
  apply Reads.succ
  apply Reads.piece (scan_string tail) rfl
  intro m y _
  have replay := again y
  rw [List.cons_append] at replay
  simp only [Piece.text, List.cons_append, value, replay]
  rfl

theorem reads_word {c : Char} (word : isWordChar c = true)
    (found : value (n + 1) depth (c :: x) = .ok (v, rest)) (ends : EndsWord rest) :
    Reads (value · depth ·) (n + 1) (c :: x) v rest := by
  rw [value_word word] at found
  obtain ⟨whole, all⟩ := word_at_head word x
  have behind := endsWord_dropWhile x
  rw [whole] at found ⊢
  obtain ⟨rfl, again⟩ := wordValue_reads all behind found ends
  apply Reads.succ
  apply Reads.piece (scan_word all behind) rfl
  intro m y closed
  have replay := again y (closed rfl)
  rw [List.cons_append] at replay
  simp only [Piece.text, List.cons_append, value_word word, replay]

theorem reads_elements
    (values : ∀ x v rest, value n depth x = .ok (v, rest) → EndsWord rest →
      Reads (value · depth ·) n x v rest)
    (later : ∀ done x v rest, elements n depth done x = .ok (v, rest) →
      Reads (elements · depth done ·) n x v rest)
    {done : List Value} (found : elements (n + 1) depth done x = .ok (v, rest)) :
    Reads (elements · depth done ·) (n + 1) x v rest := by
  cases first : value n depth x with
  | error e =>
    simp only [elements, first] at found
    exact nomatch found
  | ok result =>
    obtain ⟨v₁, rest₁⟩ := result
    simp only [elements, first] at found
    apply Reads.succ
    split at found
    · rename_i rest₂ next
      cases found
      have here := values x v₁ rest₁ first (endsWord_of_next (by decide) next)
      apply here.last (by decide) (by decide) next
      intro m y y₁ y₂ read next
      simp only [elements, read, next]
    · rename_i rest₂ next
      have here := values x v₁ rest₁ first (endsWord_of_next (by decide) next)
      apply here.andThen (by decide) next (later _ _ _ _ found)
      intro m y y₁ y₂ y₃ read next behind
      simp only [elements, read, next, behind]
    · exact nomatch found

def key (text : List Char) : Reading String :=
  match text with
  | '"' :: _ => string text
  | _ => fail .propertyName text

def member (fuel depth : Nat) (text : List Char) : Reading (String × Value) :=
  match key text with
  | .error e => .error e
  | .ok (name, rest) =>
    match skipSpace rest with
    | ':' :: rest => (value fuel depth (skipSpace rest)).map fun (v, rest) => ((name, v), rest)
    | rest => fail .colon rest

theorem members_eq (done : List (String × Value)) (x : List Char) :
    members (n + 1) depth done x = (match member n depth x with
      | .error e => .error e
      | .ok ((name, v), rest) =>
        match skipSpace rest with
        | '\x7d' :: rest => .ok (.object (insertMember name v done), rest)
        | ',' :: rest => members n depth (insertMember name v done) (skipSpace rest)
        | _ => fail .comma (skipSpace rest)) := by
  by_cases quoted : ∃ tail, x = '"' :: tail
  · obtain ⟨tail, rfl⟩ := quoted
    simp only [members, member, key]
    cases string ('"' :: tail) with
    | error e => rfl
    | ok result =>
      obtain ⟨name, behind⟩ := result
      by_cases colon : ∃ rest, skipSpace behind = ':' :: rest
      · obtain ⟨rest, next⟩ := colon
        simp only [next]
        cases value n depth (skipSpace rest) <;> rfl
      · have other : ∀ rest, skipSpace behind = ':' :: rest → False := not_exists.1 colon
        simp [fail]
  · have other : ∀ tail, x = '"' :: tail → False := not_exists.1 quoted
    simp [members, member, key, fail]

theorem reads_key {name : String} (found : key x = .ok (name, rest)) :
    Reads (fun _ => key) n x name rest := by
  unfold key at found
  split at found
  · obtain ⟨s, tail, again⟩ := string_reads found
    exact Reads.piece (scan_string tail) rfl fun _ y _ => again y
  · exact nomatch found

theorem reads_member
    (values : ∀ x v rest, value n depth x = .ok (v, rest) → EndsWord rest →
      Reads (value · depth ·) n x v rest)
    {result : String × Value} (found : member n depth x = .ok (result, rest))
    (ends : EndsWord rest) : Reads (member · depth ·) n x result rest := by
  unfold member at found
  split at found
  · exact nomatch found
  rename_i name rest₁ first
  split at found
  · rename_i rest₂ next
    obtain ⟨⟨v, left⟩, second, eq⟩ := map_ok found
    cases eq
    apply (reads_key first).andThen (by decide) next (values _ _ _ second ends)
    intro m y y₁ y₂ y₃ read next behind
    simp only [member, read, next, behind]
    rfl
  · exact nomatch found

theorem reads_members
    (values : ∀ x v rest, value n depth x = .ok (v, rest) → EndsWord rest →
      Reads (value · depth ·) n x v rest)
    (later : ∀ done x v rest, members n depth done x = .ok (v, rest) →
      Reads (members · depth done ·) n x v rest)
    {done : List (String × Value)} (found : members (n + 1) depth done x = .ok (v, rest)) :
    Reads (members · depth done ·) (n + 1) x v rest := by
  rw [members_eq] at found
  cases first : member n depth x with
  | error e =>
    simp only [first] at found
    exact nomatch found
  | ok result =>
    obtain ⟨⟨key, v₁⟩, rest₁⟩ := result
    simp only [first] at found
    apply Reads.succ
    split at found
    · rename_i rest₂ next
      cases found
      have here := reads_member values first (endsWord_of_next (by decide) next)
      apply here.last (by decide) (by decide) next
      intro m y y₁ y₂ read next
      simp only [members_eq, read, next]
    · rename_i rest₂ next
      have here := reads_member values first (endsWord_of_next (by decide) next)
      apply here.andThen (by decide) next (later _ _ _ _ found)
      intro m y y₁ y₂ y₃ read next behind
      simp only [members_eq, read, next, behind]
    · exact nomatch found

theorem reads_array
    (later : ∀ done x v rest, elements n (depth + 1) done x = .ok (v, rest) →
      Reads (elements · (depth + 1) done ·) n x v rest)
    (found : value (n + 1) depth ('[' :: x) = .ok (v, rest)) :
    Reads (value · depth ·) (n + 1) ('[' :: x) v rest := by
  by_cases deep : maxNesting < depth
  · simp only [value, deep, if_true] at found
    exact nomatch found
  apply Reads.succ
  refine Reads.bracket ']' (.array []) (elements · (depth + 1) [] ·) rfl (by decide) (by decide)
    ?_ ?_ (later []) found
  · intro m y y' next
    simp only [value, deep, if_false, next]
  · intro m y holds
    simp only [value, deep, if_false]

theorem reads_object
    (later : ∀ done x v rest, members n (depth + 1) done x = .ok (v, rest) →
      Reads (members · (depth + 1) done ·) n x v rest)
    (found : value (n + 1) depth ('\x7b' :: x) = .ok (v, rest)) :
    Reads (value · depth ·) (n + 1) ('\x7b' :: x) v rest := by
  by_cases deep : maxNesting < depth
  · simp only [value, deep, if_true] at found
    exact nomatch found
  apply Reads.succ
  refine Reads.bracket '\x7d' (.object []) (members · (depth + 1) [] ·) rfl (by decide)
    (by decide) ?_ ?_ (later []) found
  · intro m y y' next
    simp only [value, deep, if_false, next]
  · intro m y holds
    simp only [value, deep, if_false]

theorem reads_value
    (arrays : ∀ done x v rest, elements n (depth + 1) done x = .ok (v, rest) →
      Reads (elements · (depth + 1) done ·) n x v rest)
    (objects : ∀ done x v rest, members n (depth + 1) done x = .ok (v, rest) →
      Reads (members · (depth + 1) done ·) n x v rest)
    (read : value (n + 1) depth x = .ok (v, rest)) (ends : EndsWord rest) :
    Reads (value · depth ·) (n + 1) x v rest := by
  have other : wordValue x = .ok (v, rest) → Reads (value · depth ·) (n + 1) x v rest := by
    intro done
    obtain ⟨c, x', rfl, word⟩ := wordValue_head done
    rw [← value_word word n depth] at done
    exact reads_word word done ends
  unfold value at read
  split at read
  · rename_i x'
    apply reads_string
    simpa only [value] using read
  · rename_i x'
    apply reads_object objects
    simpa only [value] using read
  · rename_i x'
    apply reads_array arrays
    simpa only [value] using read
  · exact other read

end

/-- Whatever is read from a text is read from every text alike. -/
theorem reads (n : Nat) :
    (∀ depth x v rest, value n depth x = .ok (v, rest) → EndsWord rest →
      Reads (value · depth ·) n x v rest) ∧
    (∀ depth done x v rest, elements n depth done x = .ok (v, rest) →
      Reads (elements · depth done ·) n x v rest) ∧
    ∀ depth done x v rest, members n depth done x = .ok (v, rest) →
      Reads (members · depth done ·) n x v rest := by
  -- On the steps to go: a value, its elements and its members all read with fewer.
  induction n with
  | zero =>
    refine ⟨?_, ?_, ?_⟩
    · intro depth x v rest read
      exact nomatch read
    · intro depth done x v rest read
      exact nomatch read
    · intro depth done x v rest read
      exact nomatch read
  | succ n ih =>
    obtain ⟨values, arrays, objects⟩ := ih
    refine ⟨?_, ?_, ?_⟩
    · intro depth x v rest read ends
      exact reads_value (arrays (depth + 1)) (objects (depth + 1)) read ends
    · intro depth done x v rest read
      exact reads_elements (values depth) (arrays depth) read
    · intro depth done x v rest read
      exact reads_members (values depth) (objects depth) read

theorem parse_reads {text : List Char} {v : Value} (read : parse text = .ok v) :
    Everywhere Piece.Belongs (scan text) ∧
      ∀ y, Alike text y → text.length ≤ y.length → parse y = .ok v := by
  unfold parse at read
  split at read
  · cases read
  split at read
  · cases read
  rename_i v' rest found
  dsimp only at read
  split at read
  · rename_i ended
    cases read
    have none : skipSpace rest = [] := List.isEmpty_iff.1 ended
    have here := (reads _).1 _ _ _ _ found (endsWord_of_skipSpace_nil none)
    constructor
    · apply belongs_of_skipSpace
      apply here.belongs
      apply belongs_of_skipSpace
      rw [none]
      simp [scan, Everywhere]
    · intro y alike long
      obtain ⟨rest', read', behind⟩ := here.again _ (isTrimmed_skipSpace y) alike.skip
        (2 * y.length + 2) (by omega)
      unfold parse
      split
      · -- A byte order mark begins no value.
        rename_i y'
        have trimmed : skipSpace ('\uFEFF' :: y') = '\uFEFF' :: y' :=
          List.dropWhile_cons_of_neg (by decide)
        rw [trimmed, value_other (by decide) (by decide) (by decide)] at read'
        obtain ⟨c, more, same, word⟩ := wordValue_head read'
        obtain ⟨rfl, -⟩ := List.cons.inj same
        cases word
      · simp only [read', behind.nil none, List.isEmpty_nil, if_true]
  · cases read

end PluginBuild.Json
