import PluginBuild.Json.Reader
import PluginBuild.Proofs.Json.Pieces

/-!
Strings that are read. Each is a string of the pieces, and it is read alike whatever text follows it,
although the reader looks ahead where an escape may be half of a pair.
-/

namespace PluginBuild.Json

variable {mayEscape : Char → Bool} {text s rest : List Char}

theorem stringTail_plain {c : Char} (quote : c ≠ '"') (escape : c ≠ '\\') (rest : List Char) :
    stringTail mayEscape (c :: rest) =
      (stringTail mayEscape rest).map fun (s, rest) => (c :: s, rest) := by
  rw [stringTail]
  · exact quote
  · exact fun same _ => escape same
  · exact fun _ _ same _ => escape same

theorem stringTail_ne_nil (found : stringTail mayEscape text = some (s, rest)) : s ≠ [] := by
  rintro rfl
  have self := stringTail_self found []
  cases self

theorem stringTail_escape {c : Char} {more : List Char}
    (found : stringTail mayEscape ('\\' :: c :: more) = some (s, rest)) :
    ∃ s', s = '\\' :: c :: s' ∧ stringTail mayEscape more = some (s', rest) := by
  rw [stringTail] at found
  split at found
  · obtain ⟨⟨s', r⟩, later, eq⟩ := Option.map_eq_some_iff.1 found
    cases eq
    exact ⟨s', rfl, later⟩
  · cases found

theorem ne_of_hexDigit? {c : Char} {n : Nat} (digit : Text.hexDigit? c = some n) {d : Char}
    (other : Text.hexDigit? d = none) : c ≠ d := by
  rintro rfl
  cases digit.symm.trans other

structure IsCodeUnit (digits : List Char) (n : Nat) : Prop where
  length : digits.length = 4
  plain : ∀ c ∈ digits, c ≠ '"' ∧ c ≠ '\\'
  reads : ∀ x, codeUnit? (digits ++ x) = some (n, x)

theorem isCodeUnit_of_some {n : Nat} (found : codeUnit? text = some (n, rest)) :
    ∃ digits, text = digits ++ rest ∧ IsCodeUnit digits n := by
  unfold codeUnit? at found
  split at found
  · rename_i a b c d more
    split at found
    · rename_i a' b' c' d' ha hb hc hd
      cases found
      refine ⟨[a, b, c, d], rfl, rfl, ?_, ?_⟩
      · have plain : ∀ {c : Char} {n : Nat}, Text.hexDigit? c = some n → c ≠ '"' ∧ c ≠ '\\' :=
          fun digit => ⟨ne_of_hexDigit? digit (by decide), ne_of_hexDigit? digit (by decide)⟩
        simp [plain ha, plain hb, plain hc, plain hd]
      · intro x
        simp [codeUnit?, ha, hb, hc, hd]
    · exact nomatch found
  · exact nomatch found

theorem stringTail_digits {digits : List Char} (plain : ∀ c ∈ digits, c ≠ '"' ∧ c ≠ '\\')
    (rest : List Char) : stringTail mayEscape (digits ++ rest) =
      (stringTail mayEscape rest).map fun (s, rest) => (digits ++ s, rest) := by
  induction digits with
  | nil => simp
  | cons c digits ih =>
    obtain ⟨quote, escape⟩ := plain c List.mem_cons_self
    rw [List.cons_append, stringTail_plain quote escape,
      ih fun d inside => plain d (List.mem_cons_of_mem c inside), Option.map_map]
    rfl

section
variable {digits digits' more : List Char} {high low : Nat}

/-- Whether a code unit is the first half of a pair, as far as can be told from the text behind it. -/
def IsPaired (high : Nat) (behind : List Char) : Prop :=
  0xD800 ≤ high ∧ high < 0xDC00 ∧ behind.take 2 = ['\\', 'u'] ∧ 6 < behind.length

def pairedChar (high low : Nat) : Char :=
  Char.ofNat (0x10000 + (high - 0xD800) * 0x400 + (low - 0xDC00))

theorem unicodeEscape_single (unit : IsCodeUnit digits high) (nonempty : more ≠ [])
    (single : ¬ IsPaired high more) :
    unicodeEscape ('u' :: digits ++ more) = .ok (charOfUnit high, more) := by
  obtain ⟨c, more, rfl⟩ := List.exists_cons_of_ne_nil nonempty
  unfold unicodeEscape
  rw [List.cons_append, List.drop_one, List.tail_cons, unit.reads]
  exact if_neg single

theorem unicodeEscape_pair (unit : IsCodeUnit digits high) (first : 0xD800 ≤ high ∧ high < 0xDC00)
    (unit' : IsCodeUnit digits' low) (nonempty : more ≠ []) :
    unicodeEscape ('u' :: digits ++ '\\' :: 'u' :: (digits' ++ more)) =
      if 0xDC00 ≤ low ∧ low < 0xE000 then
        .ok (pairedChar high low, more)
      else .ok (charOfUnit high, '\\' :: 'u' :: (digits' ++ more)) := by
  have positive := List.length_pos_iff.2 nonempty
  have paired : IsPaired high ('\\' :: 'u' :: (digits' ++ more)) := by
    refine ⟨first.1, first.2, rfl, ?_⟩
    simp only [List.length_cons, List.length_append, unit'.length]
    omega
  unfold unicodeEscape
  rw [List.cons_append, List.drop_one, List.tail_cons, unit.reads]
  unfold IsPaired at paired
  dsimp only
  rw [if_pos paired, List.drop_succ_cons, List.drop_succ_cons, List.drop_zero, unit'.reads]
  rfl

theorem unicodeEscape_ok {after behind : List Char} {c : Char}
    (done : unicodeEscape ('u' :: after) = .ok (c, behind)) :
    ∃ digits high, IsCodeUnit digits high ∧
      ((after = digits ++ behind ∧ behind ≠ [] ∧ ¬ IsPaired high behind) ∨
        ∃ digits' low more, IsCodeUnit digits' low ∧ (0xD800 ≤ high ∧ high < 0xDC00) ∧
          after = digits ++ '\\' :: 'u' :: (digits' ++ more) ∧
          (behind = more ∨ behind = '\\' :: 'u' :: (digits' ++ more))) := by
  unfold unicodeEscape at done
  rw [List.drop_one, List.tail_cons] at done
  split at done
  · exact nomatch done
  · exact nomatch done
  rename_i high first notEmpty found
  obtain ⟨digits, rfl, unit⟩ := isCodeUnit_of_some found
  refine ⟨digits, high, unit, ?_⟩
  split at done
  · rename_i pair
    split at done
    · exact nomatch done
    rename_i low second found'
    obtain ⟨digits', same, unit'⟩ := isCodeUnit_of_some found'
    have whole : first = '\\' :: 'u' :: (digits' ++ second) := by
      rw [← same, ← List.take_append_drop 2 first, pair.2.2.1]
      simp
    subst whole
    refine .inr ⟨digits', low, second, unit', ⟨pair.1, pair.2.1⟩, rfl, ?_⟩
    split at done
    · exact .inl (Prod.mk.inj (Except.ok.inj done)).2.symm
    · exact .inr (Prod.mk.inj (Except.ok.inj done)).2.symm
  · rename_i single
    obtain ⟨-, rfl⟩ := Prod.mk.inj (Except.ok.inj done)
    exact .inl ⟨rfl, notEmpty, single⟩

theorem unicodeEscape_joined {c : Char} (unit : IsCodeUnit digits high)
    (first : 0xD800 ≤ high ∧ high < 0xDC00) (unit' : IsCodeUnit digits' low) (nonempty : more ≠ [])
    (done : unicodeEscape ('u' :: digits ++ '\\' :: 'u' :: (digits' ++ more)) = .ok (c, more))
    {x : List Char} (nonempty' : x ≠ []) :
    unicodeEscape ('u' :: digits ++ '\\' :: 'u' :: (digits' ++ x)) = .ok (c, x) := by
  rw [unicodeEscape_pair unit first unit' nonempty] at done
  rw [unicodeEscape_pair unit first unit' nonempty']
  split at done
  · rename_i range
    rw [if_pos range, (Prod.mk.inj (Except.ok.inj done)).1]
  · have length := congrArg List.length (Prod.mk.inj (Except.ok.inj done)).2
    simp only [List.length_cons, List.length_append] at length
    omega

theorem unicodeEscape_parted {c : Char} (unit : IsCodeUnit digits high)
    (first : 0xD800 ≤ high ∧ high < 0xDC00) (unit' : IsCodeUnit digits' low) (nonempty : more ≠ [])
    (done : unicodeEscape ('u' :: digits ++ '\\' :: 'u' :: (digits' ++ more)) =
      .ok (c, '\\' :: 'u' :: (digits' ++ more))) {x : List Char} (nonempty' : x ≠ []) :
    unicodeEscape ('u' :: digits ++ '\\' :: 'u' :: (digits' ++ x)) =
      .ok (c, '\\' :: 'u' :: (digits' ++ x)) := by
  rw [unicodeEscape_pair unit first unit' nonempty] at done
  rw [unicodeEscape_pair unit first unit' nonempty']
  split at done
  · have length := congrArg List.length (Prod.mk.inj (Except.ok.inj done)).2
    simp only [List.length_cons, List.length_append] at length
    omega
  · rename_i range
    rw [if_neg range, (Prod.mk.inj (Except.ok.inj done)).1]

end

theorem stringTail_letter {c : Char} (may : mayEscape c = true) (rest : List Char) :
    stringTail mayEscape ('\\' :: c :: rest) =
      (stringTail mayEscape rest).map fun (s, rest) => ('\\' :: c :: s, rest) := by
  rw [stringTail, if_pos may]

theorem stringTail_number {digits : List Char} {n : Nat} (unit : IsCodeUnit digits n)
    (found : stringTail escapedInLine text = some (s, rest)) :
    stringTail escapedInLine ('\\' :: 'u' :: (digits ++ text)) =
      some ('\\' :: 'u' :: (digits ++ s), rest) := by
  rw [stringTail_letter (by decide), stringTail_digits unit.plain, found]
  rfl

theorem take_two_append {x : List Char} {c : Char}
    (tail : stringTail mayEscape text = some (s, rest)) (second : (s ++ x).take 2 = ['\\', c])
    (y : List Char) : (s ++ y).take 2 = (s ++ x).take 2 := by
  cases s with
  | nil => exact absurd rfl (stringTail_ne_nil tail)
  | cons d s =>
    obtain ⟨rfl, -⟩ := List.cons.inj second
    cases s with
    | nil =>
      have self := stringTail_self tail []
      cases self
    | cons d' s => rfl

/-- An escape by number stands for a character in front of the string that goes on. A second escape
right behind it must be one by number as well. -/
theorem unicodeEscape_reads {after behind : List Char} {c : Char}
    (done : unicodeEscape ('u' :: after) = .ok (c, behind))
    (tail : stringTail escapedInLine behind = some (s, rest))
    (long : behind.take 2 = ['\\', 'u'] → 7 ≤ s.length) :
    ∃ e, stringTail escapedInLine ('\\' :: 'u' :: after) = some ('\\' :: 'u' :: e ++ s, rest) ∧
      ∀ y, unicodeEscape ('u' :: e ++ (s ++ y)) = .ok (c, s ++ y) := by
  have nonempty := stringTail_ne_nil tail
  have solid : ∀ y, s ++ y ≠ [] := fun y => List.append_ne_nil_of_left_ne_nil nonempty y
  have whole := stringTail_append tail
  obtain ⟨digits, high, unit, ⟨rfl, -, single⟩ | ⟨digits', low, more, unit', first, rfl, ends⟩⟩ :=
    unicodeEscape_ok done
  · -- No second escape is behind it, so none is where the string goes on with other text.
    have here := unicodeEscape_single unit (whole ▸ solid rest) single
    obtain ⟨rfl, -⟩ := Prod.mk.inj (Except.ok.inj (here.symm.trans done))
    refine ⟨digits, stringTail_number unit tail, fun y => ?_⟩
    apply unicodeEscape_single unit (solid y)
    rintro ⟨low, high, second, -⟩
    have escape : behind.take 2 = ['\\', 'u'] := by
      rw [whole, take_two_append tail second rest]
      exact second
    have length := long escape
    apply single
    refine ⟨low, high, escape, ?_⟩
    rw [whole, List.length_append]
    omega
  · rcases ends with rfl | rfl
    · refine ⟨digits ++ '\\' :: 'u' :: digits', ?_, fun y => ?_⟩
      · simpa using stringTail_number unit (stringTail_number unit' tail)
      · simpa using unicodeEscape_joined unit first unit' (whole ▸ solid rest) done (solid y)
    · -- The second escape is read again, as the beginning of what follows.
      obtain ⟨s', rfl, tail'⟩ := stringTail_escape tail
      rw [stringTail_digits unit'.plain] at tail'
      obtain ⟨⟨s'', r⟩, found, eq⟩ := Option.map_eq_some_iff.1 tail'
      cases eq
      have solid' : ∀ y, s'' ++ y ≠ [] :=
        fun y => List.append_ne_nil_of_left_ne_nil (stringTail_ne_nil found) y
      refine ⟨digits, ?_, fun y => ?_⟩
      · simpa using stringTail_number unit tail
      · simpa using unicodeEscape_parted unit first unit' (stringTail_append found ▸ solid' rest) done
          (solid' y)

theorem seven_le_length {start done chars left : List Char} {n : Nat}
    (read : stringRest start n done text = .ok (chars, left)) (escape : text.take 2 = ['\\', 'u'])
    (tail : stringTail escapedInLine text = some (s, rest)) : 7 ≤ s.length := by
  obtain ⟨after, rfl⟩ : ∃ after, text = '\\' :: 'u' :: after :=
    ⟨text.drop 2, by rw [← List.take_append_drop 2 text, escape]; rfl⟩
  cases n with
  | zero => exact nomatch read
  | succ n =>
    have number : ∃ c behind, unicodeEscape ('u' :: after) = .ok (c, behind) := by
      cases escaped : unicodeEscape ('u' :: after) with
      | error e =>
        simp only [stringRest, if_true, escaped] at read
        exact nomatch read
      | ok result => exact ⟨result.1, result.2, rfl⟩
    obtain ⟨c, behind, escaped⟩ := number
    obtain ⟨digits, high, unit, course⟩ := unicodeEscape_ok escaped
    obtain ⟨more, rfl⟩ : ∃ more, after = digits ++ more := by
      rcases course with ⟨same, -⟩ | ⟨digits', low, more, -, -, same, -⟩
      · exact ⟨_, same⟩
      · exact ⟨_, same⟩
    obtain ⟨s', rfl, tail'⟩ := stringTail_escape tail
    rw [stringTail_digits unit.plain] at tail'
    obtain ⟨⟨s'', r⟩, found, eq⟩ := Option.map_eq_some_iff.1 tail'
    cases eq
    have positive := List.length_pos_iff.2 (stringTail_ne_nil found)
    simp only [List.length_cons, List.length_append, unit.length]
    omega

theorem exists_succ {m n : Nat} (long : n < m) : ∃ m', m = m' + 1 ∧ n ≤ m' := ⟨m - 1, by omega, by omega⟩

/-- The rest of a string that is read is one of the pieces, and is read alike before any other text. -/
def ReadsString (done text chars rest : List Char) : Prop :=
  ∃ s, stringTail escapedInLine text = some (s, rest) ∧
    ∀ start y m, s.length ≤ m → stringRest start m done (s ++ y) = .ok (chars, y)

namespace ReadsString
variable {done chars : List Char}

theorem quote (done rest : List Char) : ReadsString done ('"' :: rest) done.reverse rest := by
  refine ⟨['"'], rfl, fun start y m long => ?_⟩
  obtain ⟨m, rfl, -⟩ := exists_succ long
  rfl

theorem number {after behind : List Char} {c : Char}
    (escaped : unicodeEscape ('u' :: after) = .ok (c, behind))
    (later : ReadsString (c :: done) behind chars rest)
    (long : ∀ s, stringTail escapedInLine behind = some (s, rest) →
      behind.take 2 = ['\\', 'u'] → 7 ≤ s.length) :
    ReadsString done ('\\' :: 'u' :: after) chars rest := by
  obtain ⟨s, tail, again⟩ := later
  obtain ⟨e, tail', replay⟩ := unicodeEscape_reads escaped tail (long s tail)
  refine ⟨_, tail', fun start y m long => ?_⟩
  obtain ⟨m, rfl, enough⟩ := exists_succ (show s.length < m by simp at long; omega)
  have escaped' := replay y
  simp only [List.cons_append, List.append_assoc] at escaped' ⊢
  simp only [stringRest, if_true, escaped']
  exact again start y m enough

theorem letter {c d : Char} (letter : c ≠ 'u') (escaped : escapedChar? c = some d)
    (later : ReadsString (d :: done) text chars rest) :
    ReadsString done ('\\' :: c :: text) chars rest := by
  obtain ⟨s, tail, again⟩ := later
  have may : escapedInLine c = true := by
    have plain : c ≠ '\n' := by
      rintro rfl
      cases escaped
    simpa [escapedInLine] using plain
  refine ⟨'\\' :: c :: s, ?_, fun start y m long => ?_⟩
  · rw [stringTail_letter may, tail]
    rfl
  · obtain ⟨m, rfl, enough⟩ := exists_succ (show s.length < m by simp at long; omega)
    simp only [List.cons_append, stringRest, letter, if_false, escaped]
    exact again start y m enough

theorem plain {c : Char} (quote : c ≠ '"') (escape : c ≠ '\\') (printable : ¬ c.toNat < 32)
    (later : ReadsString (c :: done) text chars rest) : ReadsString done (c :: text) chars rest := by
  obtain ⟨s, tail, again⟩ := later
  refine ⟨c :: s, ?_, fun start y m long => ?_⟩
  · rw [stringTail_plain quote escape, tail]
    rfl
  · obtain ⟨m, rfl, enough⟩ := exists_succ (show s.length < m by simp at long; omega)
    rw [List.cons_append]
    unfold stringRest
    split
    · rename_i same
      cases same
    · rename_i same
      exact absurd (List.cons.inj same).1 quote
    · rename_i same
      exact absurd (List.cons.inj same).1 escape
    · rename_i same
      cases same
      rw [if_neg printable]
      exact again start y m enough

end ReadsString

theorem stringRest_reads {start done chars : List Char} {n : Nat}
    (read : stringRest start n done text = .ok (chars, rest)) : ReadsString done text chars rest := by
  -- On the characters to go; `done` grows with each of them.
  induction n generalizing done text with
  | zero => exact nomatch read
  | succ n ih =>
    unfold stringRest at read
    split at read
    · exact nomatch read
    · cases read
      exact .quote done rest
    · split at read
      · exact nomatch read
      rename_i c after
      split at read
      · rename_i letter
        subst letter
        split at read
        · exact nomatch read
        · rename_i d left escaped
          exact .number escaped (ih read) fun s tail second => seven_le_length read second tail
      · rename_i letter
        split at read
        · exact nomatch read
        · rename_i d escaped
          exact .letter letter escaped (ih read)
    · rename_i c behind quote escape
      split at read
      · exact nomatch read
      · rename_i printable
        exact .plain quote escape printable (ih read)

theorem map_ok {α β : Type} {done : Except ReadError α} {f : α → β} {b : β}
    (read : done.map f = .ok b) : ∃ a, done = .ok a ∧ f a = b := by
  cases done with
  | error e => exact nomatch read
  | ok a => exact ⟨a, rfl, Except.ok.inj read⟩

theorem string_reads {value : String} (read : string ('"' :: text) = .ok (value, rest)) :
    ∃ s, stringTail escapedInLine text = some (s, rest) ∧
      ∀ y, string ('"' :: s ++ y) = .ok (value, y) := by
  obtain ⟨⟨chars, left⟩, done, eq⟩ := map_ok read
  cases eq
  obtain ⟨s, tail, again⟩ := stringRest_reads done
  refine ⟨s, tail, fun y => ?_⟩
  have replay := again ('"' :: s ++ y) y ('"' :: s ++ y).length (by simp; omega)
  unfold string
  rw [List.cons_append, List.drop_one, List.tail_cons, ← List.cons_append, replay]
  rfl

end PluginBuild.Json
