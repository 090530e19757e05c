import Mathlib.Data.List.Find
import PluginBuild.Json.Reader
import PluginBuild.Proofs.Json.Pieces

/-!
Numbers and words that are values, in front of a text that goes on otherwise. What is read depends on
the characters of the word alone.
-/

namespace PluginBuild.Json

variable {w x : List Char}

theorem takeWhile_append_ends {p : Char → Bool} (b : List Char) (ends : ∀ c ∈ x.head?, p c = false) :
    (b ++ x).takeWhile p = b.takeWhile p ∧ (b ++ x).dropWhile p = b.dropWhile p ++ x := by
  induction b with
  | nil =>
    cases x with
    | nil => exact ⟨rfl, rfl⟩
    | cons c x => simp [ends c rfl]
  | cons d b ih =>
    rw [List.cons_append, List.takeWhile_cons, List.takeWhile_cons, List.dropWhile_cons,
      List.dropWhile_cons]
    split
    · exact ⟨congrArg (d :: ·) ih.1, ih.2⟩
    · exact ⟨rfl, rfl⟩

theorem EndsWord.ne {c : Char} (ends : EndsWord (c :: x)) {d : Char} (word : isWordChar d = true) :
    c ≠ d := by
  rintro rfl
  cases (ends c rfl).symm.trans word

theorem EndsWord.digits (ends : EndsWord x) : ∀ c ∈ x.head?, c.isDigit = false := by
  intro c first
  have other := ends c first
  simp only [isWordChar, Char.isAlphanum, Bool.or_eq_false_iff] at other
  exact other.1.1.1.2

theorem fractionPart_of_ne {text : List Char} (other : ∀ d rest, text = '.' :: d :: rest →
    d.isDigit = false) : fractionPart text = ([], text) := by
  unfold fractionPart
  split
  · rename_i d rest
    rw [if_neg (by simp [other d rest rfl])]
  · rfl

theorem fractionPart_append (ends : EndsWord x) (b : List Char) :
    fractionPart (b ++ x) = ((fractionPart b).1, (fractionPart b).2 ++ x) := by
  by_cases digit : ∃ d rest, b = '.' :: d :: rest ∧ d.isDigit = true
  · obtain ⟨d, rest, rfl, digit⟩ := digit
    have both := takeWhile_append_ends rest ends.digits
    simp [fractionPart, digit, both.1, both.2]
  · have none : ∀ d rest, b = '.' :: d :: rest → d.isDigit = false := by
      intro d rest same
      rw [Bool.eq_false_iff]
      exact fun is => digit ⟨d, rest, same, is⟩
    rw [fractionPart_of_ne none, fractionPart_of_ne]
    intro d rest same
    cases b with
    | nil => exact absurd rfl ((same ▸ ends : EndsWord ('.' :: d :: rest)).ne (by decide))
    | cons c b =>
      obtain ⟨rfl, later⟩ := List.cons.inj same
      cases b with
      | nil =>
        obtain rfl : x = d :: rest := later
        exact ends.digits d rfl
      | cons e b =>
        obtain ⟨rfl, -⟩ := List.cons.inj later
        exact none _ _ rfl

theorem exponentPart_append (ends : EndsWord x) (b : List Char) :
    exponentPart (b ++ x) = ((exponentPart b).1, (exponentPart b).2 ++ x) := by
  cases b with
  | nil =>
    cases x with
    | nil => rfl
    | cons c x =>
      have small : c ≠ 'e' := ends.ne (by decide)
      have large : c ≠ 'E' := ends.ne (by decide)
      simp [exponentPart, small, large]
  | cons e b =>
    by_cases letter : e = 'e' ∨ e = 'E'
    · cases b with
      | nil =>
        have none := takeWhile_append_ends [] ends.digits
        cases x with
        | nil => simp [exponentPart, letter]
        | cons c x =>
          have plus : c ≠ '+' := ends.ne (by decide)
          have minus : c ≠ '-' := ends.ne (by decide)
          have digit := ends.digits c rfl
          simp [exponentPart, letter, plus, minus, digit]
      | cons c b =>
        have after := takeWhile_append_ends b ends.digits
        have whole := takeWhile_append_ends (c :: b) ends.digits
        rw [List.cons_append] at whole
        by_cases sign : c = '+' ∨ c = '-'
        · simp only [exponentPart, List.cons_append, letter, sign, if_true, after.1, after.2]
          split <;> rfl
        · simp only [exponentPart, List.cons_append, letter, sign, if_true, if_false, whole.1, whole.2]
          split <;> rfl
    · simp [exponentPart, letter]

def before {α : Type} (x : List Char) : Reading α → Reading α
  | .ok (a, rest) => .ok (a, rest ++ x)
  | .error (.fault f ahead) => .error (.fault f (ahead ++ x))
  | .error e => .error e

theorem before_eq_ok {α : Type} {r : Reading α} {a : α} {rest : List Char} :
    before x r = .ok (a, rest) ↔ ∃ rest', r = .ok (a, rest') ∧ rest = rest' ++ x := by
  unfold before
  split
  · rename_i a' rest'
    constructor
    · intro same
      cases same
      exact ⟨rest', rfl, rfl⟩
    · rintro ⟨rest'', same, rfl⟩
      cases same
      rfl
  · simp
  · simp

def wholeDigits (body : List Char) : List Char :=
  match body with
  | '0' :: _ => ['0']
  | _ => body.takeWhile Char.isDigit

theorem wholeDigits_length_le (b : List Char) : (wholeDigits b).length ≤ b.length := by
  unfold wholeDigits
  split
  · simp
  · exact (List.takeWhile_prefix _).length_le

theorem wholeDigits_append (ends : EndsWord x) (b : List Char) :
    wholeDigits (b ++ x) = wholeDigits b ∧
      (b ++ x).drop (wholeDigits b).length = b.drop (wholeDigits b).length ++ x := by
  refine ⟨?_, List.drop_append_of_le_length (wholeDigits_length_le b)⟩
  cases b with
  | nil =>
    cases x with
    | nil => rfl
    | cons c x =>
      have zero : c ≠ '0' := ends.ne (by decide)
      simp [wholeDigits, zero, ends.digits c rfl]
  | cons c b =>
    by_cases zero : c = '0'
    · subst zero
      rfl
    · have both := (takeWhile_append_ends (c :: b) ends.digits).1
      simpa [wholeDigits, zero] using both

def unsignedNumber (isNegative : Bool) (text body : List Char) : Reading Value :=
  let whole := wholeDigits body
  if whole.isEmpty then fail .value text
  else
    let (fraction, rest) := fractionPart (body.drop whole.length)
    let (exponent, rest) := exponentPart rest
    if fraction.isEmpty && exponent.isEmpty then
      if maxDigits < whole.length then .error (.tooManyDigits whole.length)
      else
        let n := Decimal.natOfDigits whole
        .ok (.int (if isNegative then -(n : Int) else n), rest)
    else
      let numeral : Decimal.Numeral := ⟨whole, fraction, Decimal.exponentOf exponent⟩
      .ok (.float (signed isNegative numeral.bits), rest)

theorem number_eq (text : List Char) : number text = unsignedNumber (text.head? == some '-') text
    (if text.head? == some '-' then text.drop 1 else text) := rfl

theorem unsignedNumber_append (ends : EndsWord x) (isNegative : Bool) (text b : List Char) :
    unsignedNumber isNegative (text ++ x) (b ++ x) = before x (unsignedNumber isNegative text b) := by
  obtain ⟨whole, behind⟩ := wholeDigits_append ends b
  unfold unsignedNumber
  simp only [whole, behind, fractionPart_append ends, exponentPart_append ends]
  split
  · rfl
  · split
    · split <;> rfl
    · rfl

theorem number_append (ends : EndsWord x) (w : List Char) : number (w ++ x) = before x (number w) := by
  rw [number_eq, number_eq]
  cases w with
  | nil =>
    have positive : (x.head? == some '-') = false := by
      cases x with
      | nil => rfl
      | cons c x => simpa using ends.ne (by decide)
    simpa [positive] using unsignedNumber_append ends false [] []
  | cons c w =>
    have body := unsignedNumber_append ends (some c == some '-') (c :: w)
      (if some c == some '-' then w else c :: w)
    refine Eq.trans ?_ body
    simp only [List.cons_append, List.head?_cons, List.drop_one, List.tail_cons]
    cases some c == some '-' <;> rfl

theorem words_are_words : ∀ entry ∈ words, ∀ c ∈ entry.1, isWordChar c = true := by
  have all : (words.all fun entry => entry.1.all isWordChar) = true := by rfl
  simpa using all

theorem take_append_eq (ends : EndsWord x) {k : List Char} (word : ∀ c ∈ k, isWordChar c = true) :
    (w ++ x).take k.length = k ↔ w.take k.length = k := by
  by_cases short : k.length ≤ w.length
  · rw [List.take_append_of_le_length short]
  constructor
  · intro taken
    rw [List.take_append] at taken
    obtain ⟨n, more⟩ : ∃ n, k.length - w.length = n + 1 := ⟨k.length - w.length - 1, by omega⟩
    rw [more] at taken
    -- If the word were longer than `w`, it would have the character that ends the word.
    cases x with
    | nil =>
      have length := congrArg List.length taken
      simp at length
      omega
    | cons c x =>
      have inside : c ∈ k := by
        rw [← taken]
        simp
      cases (ends c rfl).symm.trans (word c inside)
  · intro taken
    have length := congrArg List.length taken
    rw [List.length_take] at length
    omega

theorem word?_append (ends : EndsWord x) (w : List Char) :
    word? (w ++ x) = (word? w).map fun found => (found.1, found.2 ++ x) := by
  have same : ∀ entry ∈ words, ((w ++ x).take entry.1.length == entry.1) =
      (w.take entry.1.length == entry.1) := by
    intro entry member
    rw [Bool.eq_iff_iff, beq_iff_eq, beq_iff_eq]
    exact take_append_eq ends (words_are_words entry member)
  unfold word?
  rw [List.find?_congr same, Option.map_map]
  cases found : words.find? fun entry => w.take entry.1.length == entry.1 with
  | none => rfl
  | some entry =>
    have here := List.find?_some found
    have short : entry.1.length ≤ w.length := by
      have taken := congrArg List.length (beq_iff_eq.1 here)
      rw [List.length_take] at taken
      omega
    simp [List.drop_append_of_le_length short]

theorem fractionPart_suffix (text : List Char) : (fractionPart text).2 <:+ text := by
  unfold fractionPart
  split
  · rename_i d rest
    split
    · exact (List.dropWhile_suffix _).trans ((List.suffix_cons d rest).trans (List.suffix_cons _ _))
    · exact List.suffix_rfl
  · exact List.suffix_rfl

theorem exponentPart_suffix (text : List Char) : (exponentPart text).2 <:+ text := by
  cases text with
  | nil => exact List.suffix_rfl
  | cons e rest =>
    have digits : ∀ digits, digits <:+ rest → digits.dropWhile Char.isDigit <:+ e :: rest := by
      intro digits suffix
      exact (List.dropWhile_suffix _).trans (suffix.trans (List.suffix_cons e rest))
    unfold exponentPart
    dsimp only
    split
    · cases rest with
      | nil => exact List.suffix_rfl
      | cons c after =>
        dsimp only
        split
        · split
          · exact List.suffix_rfl
          · exact digits _ (List.suffix_cons c after)
        · split
          · exact List.suffix_rfl
          · exact digits _ List.suffix_rfl
    · exact List.suffix_rfl

theorem unsignedNumber_suffix {isNegative : Bool} {text body rest : List Char} {v : Value}
    (done : unsignedNumber isNegative text body = .ok (v, rest)) : rest <:+ body := by
  have behind : (exponentPart (fractionPart (body.drop (wholeDigits body).length)).2).2 <:+ body :=
    (exponentPart_suffix _).trans ((fractionPart_suffix _).trans (List.drop_suffix _ _))
  unfold unsignedNumber at done
  dsimp only at done
  split at done
  · exact nomatch done
  split at done
  · split at done
    · exact nomatch done
    · cases done
      exact behind
  · cases done
    exact behind

theorem number_suffix {text rest : List Char} {v : Value} (done : number text = .ok (v, rest)) :
    rest <:+ text := by
  rw [number_eq] at done
  have suffix := unsignedNumber_suffix done
  split at suffix
  · exact suffix.trans (List.drop_suffix 1 text)
  · exact suffix

def wordValue (text : List Char) : Reading Value :=
  match word? text with
  | some found => .ok found
  | none => number text

theorem wordValue_append (ends : EndsWord x) (w : List Char) :
    wordValue (w ++ x) = before x (wordValue w) := by
  unfold wordValue
  rw [word?_append ends]
  cases word? w with
  | some found => rfl
  | none => exact number_append ends w

theorem wordValue_suffix {text rest : List Char} {v : Value} (done : wordValue text = .ok (v, rest)) :
    rest <:+ text := by
  unfold wordValue at done
  split at done
  · rename_i found
    cases done
    obtain ⟨entry, -, same⟩ := Option.map_eq_some_iff.1 found
    cases same
    exact List.drop_suffix _ _
  · exact number_suffix done

theorem wordValue_reads {v : Value} {rest : List Char} (word : ∀ c ∈ w, isWordChar c = true)
    (ends : EndsWord x) (done : wordValue (w ++ x) = .ok (v, rest)) (behind : EndsWord rest) :
    rest = x ∧ ∀ y, EndsWord y → wordValue (w ++ y) = .ok (v, y) := by
  rw [wordValue_append ends, before_eq_ok] at done
  obtain ⟨left, done, rfl⟩ := done
  have suffix := wordValue_suffix done
  cases left with
  | nil =>
    refine ⟨rfl, fun y ends' => ?_⟩
    rw [wordValue_append ends', before_eq_ok]
    exact ⟨[], done, rfl⟩
  | cons c left =>
    have inside := word c (suffix.subset List.mem_cons_self)
    cases (behind c rfl).symm.trans inside

end PluginBuild.Json
