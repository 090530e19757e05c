import PluginBuild.Proofs.Text.NameCharacters
import PluginBuild.Script.Token

/-!
Compatibility forms have no slash where the text has none. No table leads to a slash; Hangul is composed
and decomposed by arithmetic far above it.
-/

namespace PluginBuild.Text

/-- Lines with the characters that they are made of. -/
inductive Spells : List String → List (List Char) → Prop where
  | nil : Spells [] []
  | cons {chars : List Char} {lines : List String} {rest : List (List Char)} (more : Spells lines rest) :
    Spells (String.ofList chars :: lines) (chars :: rest)

theorem Spells.mem {lines : List String} {rest : List (List Char)} (spells : Spells lines rest) :
    ∀ line ∈ lines, line.toList ∈ rest := by
  induction spells with
  | nil => exact nofun
  | cons more ih =>
    intro line member
    rcases List.mem_cons.mp member with rfl | later
    · rw [String.toList_ofList]
      exact List.mem_cons_self
    · exact List.mem_cons_of_mem _ (ih line later)

def valuesOf (word : List Char) : List Nat :=
  (cut ',' ((word.dropWhile (· != ':')).drop 1)).map hexNumber

def isSlashless (line : List Char) : Bool :=
  (cut ' ' line).all fun word => (valuesOf word).all (· != 47)

theorem compositionPairs_slashless :
    ∃ chars, Spells compositionPairs chars ∧ chars.all isSlashless = true := by
  apply Exists.intro
  apply And.intro
  · dsimp only [compositionPairs]
    repeat' constructor
  · decide +kernel

theorem wideDecompositions_slashless :
    ∃ chars, Spells wideDecompositions chars ∧ chars.all isSlashless = true := by
  apply Exists.intro
  apply And.intro
  · dsimp only [wideDecompositions]
    repeat' constructor
  · decide +kernel

namespace KeyTable

theorem mem_of_search {entries : Array (Nat × List Nat)} {key lo hi : Nat} {value : List Nat}
    (found : search entries key lo hi = some value) : ∃ k, (k, value) ∈ entries := by
  fun_induction search entries key lo hi with
  | case1 => exact nomatch found
  | case2 lo hi _ mid value' here =>
    cases found
    exact ⟨key, Array.mem_of_getElem? here⟩
  | case3 lo hi _ mid k value' _ _ _ ih => exact ih found
  | case4 lo hi _ mid k value' _ _ _ ih => exact ih found
  | case5 => exact nomatch found

theorem ne_slash_of_find? {lines : List String}
    (slashless : ∃ chars, Spells lines chars ∧ chars.all isSlashless = true) {key : Nat}
    {value : List Nat} (found : (ofLines lines).find? key = some value) : ∀ n ∈ value, n ≠ 47 := by
  obtain ⟨chars, spells, all⟩ := slashless
  obtain ⟨k, member⟩ := mem_of_search found
  obtain ⟨line, among, inLine⟩ := List.mem_flatMap.mp (List.mem_toArray.mp member)
  obtain ⟨word, inWords, entry⟩ := List.mem_map.mp inLine
  cases entry
  have words := List.all_eq_true.mp all line.toList (spells.mem line among)
  have values := List.all_eq_true.mp words word inWords
  intro n inValues
  exact bne_iff_ne.mp (List.all_eq_true.mp values n inValues)

end KeyTable

theorem decompose_ne_slash {n : Nat} (other : n ≠ 47) : ∀ m ∈ decompose n, m ≠ 47 := by
  intro m member
  unfold decompose at member
  split at member
  · rwa [List.mem_singleton.mp member]
  split at member
  · rename_i hangul
    have lead : 0x1100 ≤ m := by
      unfold hangulParts at member
      dsimp only at member
      split at member <;> simp only [List.mem_cons, List.not_mem_nil, or_false] at member <;> omega
    omega
  split at member
  · cases found : latinDecompositions.lookup n with
    | none =>
      rw [found] at member
      rwa [List.mem_singleton.mp member]
    | some parts =>
      rw [found] at member
      have slashless : ∀ entry ∈ latinDecompositions, ∀ m ∈ entry.2, m ≠ 47 := by decide +kernel
      exact slashless _ (mem_of_lookup found) m member
  · cases found : wideTable.find? n with
    | none =>
      rw [found] at member
      rwa [List.mem_singleton.mp member]
    | some parts =>
      rw [found] at member
      exact KeyTable.ne_slash_of_find? wideDecompositions_slashless found m member

theorem mem_insertMark {n m : Nat} {marks : List Nat} (member : m ∈ insertMark n marks) :
    m = n ∨ m ∈ marks := by
  induction marks with
  | nil => exact .inl (List.mem_singleton.mp member)
  | cons k earlier ih =>
    unfold insertMark at member
    split at member
    · rcases List.mem_cons.mp member with rfl | later
      · exact .inr List.mem_cons_self
      · rcases ih later with same | among
        · exact .inl same
        · exact .inr (List.mem_cons_of_mem k among)
    · exact List.mem_cons.mp member

theorem mem_orderMarks {n : Nat} {text : List Nat} (member : n ∈ orderMarks text) : n ∈ text := by
  have sorted : ∀ done, (∀ m ∈ text.foldl (fun done n =>
      if combiningClass n = 0 then n :: done else insertMark n done) done, m ∈ done ∨ m ∈ text) := by
    clear member
    induction text with
    | nil => exact fun done m among => .inl among
    | cons k text ih =>
      intro done m among
      rcases ih _ m among with here | later
      · dsimp only at here
        split at here
        · rcases List.mem_cons.mp here with rfl | before
          · exact .inr List.mem_cons_self
          · exact .inl before
        · rcases mem_insertMark here with rfl | before
          · exact .inr List.mem_cons_self
          · exact .inl before
      · exact .inr (List.mem_cons_of_mem k later)
  rcases sorted [] n (List.mem_reverse.mp member) with never | among
  · exact nomatch never
  · exact among

theorem composePair?_ne_slash {a b c : Nat} (joined : composePair? a b = some c) : c ≠ 47 := by
  unfold composePair? at joined
  split at joined
  · have same := Option.some.inj joined
    omega
  split at joined
  · have same := Option.some.inj joined
    omega
  · obtain ⟨value, found, head⟩ := Option.bind_eq_some_iff.mp joined
    exact KeyTable.ne_slash_of_find? compositionPairs_slashless found c (List.mem_of_head? head)

theorem Composition.push_ne_slash {state : Composition} {n : Nat} (other : n ≠ 47)
    (free : ∀ m ∈ state.text, m ≠ 47) : ∀ m ∈ (state.push n).text, m ≠ 47 := by
  have kept : ∀ {m : Nat}, m ∈ state.done ∨ m ∈ state.starter ∨ m ∈ state.marks → m ≠ 47 := by
    intro m among
    refine free m ?_
    simpa [text, or_assoc] using among
  intro m member
  unfold push at member
  dsimp only at member
  split at member
  · rename_i c joined
    obtain ⟨-, joined⟩ := Option.ite_none_left_eq_some.mp joined
    obtain ⟨starter, -, composed⟩ := Option.bind_eq_some_iff.mp joined
    simp only [text, List.mem_append, List.mem_reverse, Option.toList_some, List.mem_singleton] at member
    rcases member with (before | rfl) | marked
    · exact kept (.inl before)
    · exact composePair?_ne_slash composed
    · exact kept (.inr (.inr marked))
  · split at member
    · simp only [text, List.reverse_reverse, List.mem_append, Option.toList_some, List.mem_singleton,
        List.reverse_nil, List.not_mem_nil, or_false] at member
      rcases member with before | rfl
      · refine free m ?_
        simpa [text, or_assoc] using before
      · exact other
    · simp only [text, List.mem_append, List.mem_reverse, List.mem_cons, Option.mem_toList] at member
      rcases member with (before | last) | rfl | marked
      · exact kept (.inl before)
      · exact kept (.inr (.inl last))
      · exact other
      · exact kept (.inr (.inr marked))

theorem ofNat_ne_slash {n : Nat} (other : n ≠ 47) : Char.ofNat n ≠ '/' := by
  intro same
  by_cases valid : n.isValidChar
  · have code := toNat_ofNat_of_valid valid
    rw [same] at code
    exact other code.symm
  · rw [Char.ofNat, dif_neg valid] at same
    exact absurd same (by decide)

theorem slash_notMem_compatibilityForm {s : String} (free : '/' ∉ s.toList) :
    '/' ∉ (compatibilityForm s).toList := by
  have parts : ∀ n ∈ orderMarks (s.toList.flatMap (decompose ·.toNat)), n ≠ 47 := by
    intro n member
    obtain ⟨c, among, inParts⟩ := List.mem_flatMap.mp (mem_orderMarks member)
    refine decompose_ne_slash (fun same => free ?_) n inParts
    have slash : c = '/' := Char.toNat_inj.mp same
    rwa [← slash]
  unfold compatibilityForm
  dsimp only
  rw [String.toList_ofList]
  generalize orderMarks (s.toList.flatMap (decompose ·.toNat)) = ordered at parts
  have composed : ∀ state : Composition, (∀ m ∈ state.text, m ≠ 47) →
      ∀ m ∈ (ordered.foldl Composition.push state).text, m ≠ 47 := by
    induction ordered with
    | nil => exact fun _ fits => fits
    | cons n rest ih =>
      obtain ⟨other, later⟩ := List.forall_mem_cons.mp parts
      exact fun state fits => ih later _ (Composition.push_ne_slash other fits)
  intro member
  obtain ⟨n, among, same⟩ := List.mem_map.mp member
  exact ofNat_ne_slash (composed ⟨[], none, []⟩ nofun n among) same

end PluginBuild.Text

namespace PluginBuild.Script

theorem slash_notMem_identifierOf {word : String} (free : '/' ∉ word.toList) :
    '/' ∉ (identifierOf word).toList := by
  unfold identifierOf
  split
  · exact free
  · exact Text.slash_notMem_compatibilityForm free

end PluginBuild.Script
