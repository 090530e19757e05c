import PluginBuild.PluginClass
import PluginBuild.Proofs.Entries
import PluginBuild.Text.Identifier

/-!
Characters of names. All of them lie above the slash, and so none is a null character, a line feed,
a dot or a slash. Class names and identifiers are made of such characters only.
-/

namespace PluginBuild.Text

def IsPlain (text : List Char) : Prop := ∀ c ∈ text, 0x2F < c.toNat

instance (text : List Char) : Decidable (IsPlain text) :=
  inferInstanceAs (Decidable (∀ c ∈ text, 0x2F < c.toNat))

theorem ascii_forall {p : Char → Prop} (each : ∀ n, n < 128 → p (Char.ofNat n)) {c : Char}
    (ascii : c.toNat < 128) : p c := by
  have here := each c.toNat ascii
  rwa [Char.ofNat_toNat] at here

theorem toNat_ofNat_of_valid {n : Nat} (valid : n.isValidChar) : (Char.ofNat n).toNat = n := by
  rw [Char.ofNat, dif_pos valid]
  rfl

namespace IsPlain

theorem absent {text : List Char} (plain : IsPlain text) {c : Char} (reserved : c.toNat ≤ 0x2F) :
    c ∉ text := by
  intro member
  have above := plain c member
  omega

theorem nil : IsPlain [] := fun _ member => nomatch member

theorem append {first second : List Char} (one : IsPlain first) (two : IsPlain second) :
    IsPlain (first ++ second) := by
  intro c member
  rcases List.mem_append.mp member with member | member
  · exact one c member
  · exact two c member

theorem of_cons {c : Char} {rest : List Char} (head : 0x2F < c.toNat) (tail : IsPlain rest) :
    IsPlain (c :: rest) := by
  intro d member
  rcases List.mem_cons.mp member with rfl | member
  · exact head
  · exact tail d member

end IsPlain

theorem above_slash_of_isIdentifierStart {c : Char} (start : isIdentifierStart c = true) :
    0x2F < c.toNat := by
  by_cases ascii : c.toNat < 128
  · exact ascii_forall (p := fun c => isIdentifierStart c = true → 0x2F < c.toNat)
      (by decide +kernel) ascii start
  · omega

theorem above_slash_of_isIdentifierPart {c : Char} (part : isIdentifierPart c = true) :
    0x2F < c.toNat := by
  by_cases ascii : c.toNat < 128
  · exact ascii_forall (p := fun c => isIdentifierPart c = true → 0x2F < c.toNat)
      (by decide +kernel) ascii part
  · omega

theorem above_slash_of_isWord {c : Char} (word : isWord c = true) : 0x2F < c.toNat := by
  by_cases ascii : c.toNat < 128
  · exact ascii_forall (p := fun c => isWord c = true → 0x2F < c.toNat)
      (by decide +kernel) ascii word
  · omega

theorem isPlain_of_isIdentifier {s : String} (identifier : isIdentifier s = true) :
    IsPlain s.toList ∧ s ≠ "" := by
  unfold isIdentifier at identifier
  cases chars : s.toList with
  | nil => simp [chars] at identifier
  | cons c rest =>
    rw [chars] at identifier
    obtain ⟨start, parts⟩ := Bool.and_eq_true_iff.mp identifier
    refine ⟨IsPlain.of_cons (above_slash_of_isIdentifierStart start) ?_, ?_⟩
    · intro d member
      exact above_slash_of_isIdentifierPart (List.all_eq_true.mp parts d member)
    · intro empty
      simp [empty] at chars

theorem upperRuns_above_slash : ∀ run ∈ upperRuns, 0x2F < run.target ∧
    run.target + (run.last - run.first) < 0xD800 ∨ 0xDFFF < run.target ∧
      0x2F < run.target ∧ run.target + (run.last - run.first) < 0x110000 := by
  decide +kernel

theorem upperExpansions_above_slash : ∀ letters ∈ upperExpansions, ∀ n ∈ letters.2,
    0x2F < n ∧ n < 0xD800 := by
  decide +kernel

theorem CaseRun.image?_above_slash {run : CaseRun} (member : run ∈ upperRuns) {n image : Nat}
    (found : run.image? n = some image) : 0x2F < (Char.ofNat image).toNat := by
  unfold CaseRun.image? at found
  split at found
  · rename_i inRun
    have same : run.target + (n - run.first) = image := Option.some.inj found
    simp only [Bool.and_eq_true, decide_eq_true_eq] at inRun
    have valid : image.isValidChar := by
      rcases upperRuns_above_slash run member with below | above
      · exact Or.inl (by omega)
      · exact Or.inr (by omega)
    rw [toNat_ofNat_of_valid valid]
    rcases upperRuns_above_slash run member with below | above <;> omega
  · exact nomatch found

theorem isPlain_upper {c : Char} (above : 0x2F < c.toNat) : IsPlain (upper c) := by
  unfold upper
  split
  · rename_i ascii
    refine IsPlain.of_cons ?_ IsPlain.nil
    exact ascii_forall (p := fun c => 0x2F < c.toNat → 0x2F < c.toUpper.toNat)
      (by decide +kernel) ascii above
  · split
    · rename_i letters found
      intro d member
      obtain ⟨n, inLetters, rfl⟩ := List.mem_map.mp member
      obtain ⟨low, high⟩ := upperExpansions_above_slash _ (mem_of_lookup found) n inLetters
      rw [toNat_ofNat_of_valid (Or.inl high)]
      exact low
    · split
      · rename_i n found
        obtain ⟨run, member, image⟩ := List.exists_of_findSome?_eq_some found
        exact IsPlain.of_cons (CaseRun.image?_above_slash member image)
          IsPlain.nil
      · exact IsPlain.of_cons above IsPlain.nil

end PluginBuild.Text

namespace PluginBuild.PluginClass

open PluginBuild.Text

theorem isPlain_wordsOnly (text : List Char) : IsPlain (wordsOnly text) := by
  intro c member
  obtain ⟨d, -, rfl⟩ := List.mem_map.mp member
  split
  · rename_i word
    exact above_slash_of_isWord word
  · decide

theorem isPlain_nameOfStem (stem : List Char) : IsPlain (nameOfStem stem) := by
  have words := isPlain_wordsOnly stem
  unfold nameOfStem
  split
  · exact IsPlain.of_cons (by decide) IsPlain.nil
  · rename_i c rest found
    rw [found] at words
    have head := words c List.mem_cons_self
    have tail : IsPlain rest := fun d member => words d (List.mem_cons_of_mem c member)
    split
    · exact IsPlain.of_cons (by decide) (IsPlain.of_cons head tail)
    · exact (isPlain_upper head).append tail

theorem isPlain_nameOf (path : Path) : IsPlain (nameOf path).toList := by
  rw [nameOf, String.toList_ofList]
  exact isPlain_nameOfStem _

end PluginBuild.PluginClass
