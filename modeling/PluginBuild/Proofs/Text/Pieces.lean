import Mathlib.Data.List.TakeWhile
import PluginBuild.Text.Pieces

/-!
Cutting a text at a separator and putting the pieces together again are inverse to each other, as
long as no piece holds the separator.
-/

namespace PluginBuild.Text

theorem pieces_eq_splitOn (sep : Char) (text : List Char) : pieces sep text = text.splitOn sep := by
  induction text with
  | nil => rfl
  | cons c rest ih =>
    rw [pieces, ih, List.splitOn_cons_eq_if_modifyHead]
    by_cases same : c = sep
    · simp [same]
    · simp only [same, if_false, beq_iff_eq]
      cases found : rest.splitOn sep with
      | nil => exact absurd found (List.splitOn_ne_nil sep rest)
      | cons piece others => rfl

theorem absent_of_mem_pieces {sep : Char} {text piece : List Char}
    (member : piece ∈ pieces sep text) : sep ∉ piece := by
  induction text generalizing piece with
  | nil => simp_all [pieces]
  | cons c rest ih =>
    rw [pieces] at member
    split at member
    · rcases List.mem_cons.mp member with empty | later
      · simp [empty]
      · exact ih later
    · rename_i differ
      cases found : pieces sep rest with
      | nil =>
        rw [pieces_eq_splitOn] at found
        exact absurd found (List.splitOn_ne_nil sep rest)
      | cons first others =>
        rw [found] at member ih
        rcases List.mem_cons.mp member with here | later
        · subst here
          intro inside
          rcases List.mem_cons.mp inside with same | inside
          · exact differ same.symm
          · exact ih List.mem_cons_self inside
        · exact ih (List.mem_cons_of_mem first later)

theorem mem_of_mem_pieces {sep : Char} {text piece : List Char} (member : piece ∈ pieces sep text)
    {c : Char} (inside : c ∈ piece) : c ∈ text := by
  induction text generalizing piece with
  | nil =>
    rw [List.mem_singleton.mp member] at inside
    exact nomatch inside
  | cons head rest ih =>
    rw [pieces] at member
    split at member
    · rcases List.mem_cons.mp member with rfl | later
      · exact nomatch inside
      · exact List.mem_cons_of_mem head (ih later inside)
    · cases found : pieces sep rest with
      | nil =>
        rw [found, List.mem_singleton] at member
        rw [member] at inside
        exact List.mem_cons.mpr (.inl (List.mem_singleton.mp inside))
      | cons first others =>
        rw [found] at member ih
        rcases List.mem_cons.mp member with rfl | later
        · rcases List.mem_cons.mp inside with rfl | inside
          · exact List.mem_cons_self
          · exact List.mem_cons_of_mem head (ih List.mem_cons_self inside)
        · exact List.mem_cons_of_mem head (ih (List.mem_cons_of_mem first later) inside)

theorem join_toList (between : String) (parts : List String) :
    (join between parts).toList = between.toList.intercalate (parts.map String.toList) := by
  induction parts with
  | nil => rfl
  | cons part rest ih =>
    cases rest with
    | nil => simp [join]
    | cons next rest =>
      rw [join, String.toList_append, String.toList_append, ih]
      · simp
      · simp

theorem mem_join {between : String} {parts : List String} {c : Char}
    (member : c ∈ (join between parts).toList) :
    c ∈ between.toList ∨ ∃ part ∈ parts, c ∈ part.toList := by
  induction parts with
  | nil => exact nomatch member
  | cons part rest ih =>
    cases rest with
    | nil => exact .inr ⟨part, List.mem_cons_self, member⟩
    | cons next rest =>
      rw [join_toList, List.map_cons, List.map_cons, List.intercalate_cons_cons, ← List.map_cons,
        ← join_toList, List.mem_append, List.mem_append] at member
      rcases member with (here | between) | later
      · exact .inr ⟨part, List.mem_cons_self, here⟩
      · exact .inl between
      · refine (ih later).imp_right fun ⟨other, inside, holds⟩ => ?_
        exact ⟨other, List.mem_cons_of_mem part inside, holds⟩

theorem join_append (between : String) {front back : List String} (some : front ≠ [])
    (more : back ≠ []) :
    join between (front ++ back) = join between front ++ between ++ join between back := by
  have unfolded : ∀ part next rest, join between (part :: next :: rest) =
      part ++ between ++ join between (next :: rest) := fun part next rest => by
    rw [join]
    simp
  induction front with
  | nil => exact absurd rfl some
  | cons part rest ih =>
    cases rest with
    | nil =>
      obtain ⟨next, others, rfl⟩ := List.exists_cons_of_ne_nil more
      exact unfolded part next others
    | cons next rest =>
      have later := ih (List.cons_ne_nil next rest)
      rw [List.cons_append, List.cons_append, unfolded, ← List.cons_append, later, unfolded]
      simp only [String.append_assoc]

theorem join_concat (between : String) {front : List String} (some : front ≠ []) (last : String) :
    join between (front ++ [last]) = join between front ++ between ++ last :=
  join_append between some (List.cons_ne_nil last [])

section
variable {sep : Char} {between : String}

theorem split_ne_nil (sep : Char) (text : String) : split sep text ≠ [] := by
  rw [split, pieces_eq_splitOn]
  simp

theorem absent_of_mem_split {text part : String} (member : part ∈ split sep text) :
    sep ∉ part.toList := by
  obtain ⟨piece, here, rfl⟩ := List.mem_map.mp member
  rw [String.toList_ofList]
  exact absent_of_mem_pieces here

theorem mem_of_mem_split {text part : String} (member : part ∈ split sep text) {c : Char}
    (inside : c ∈ part.toList) : c ∈ text.toList := by
  obtain ⟨piece, here, rfl⟩ := List.mem_map.mp member
  rw [String.toList_ofList] at inside
  exact mem_of_mem_pieces here inside

theorem split_of_absent {text : String} (absent : sep ∉ text.toList) : split sep text = [text] := by
  rw [split, pieces_eq_splitOn, List.splitOn_eq_singleton absent]
  simp

theorem split_join (single : between.toList = [sep]) {parts : List String} (nonempty : parts ≠ [])
    (absent : ∀ part ∈ parts, sep ∉ part.toList) : split sep (join between parts) = parts := by
  rw [split, pieces_eq_splitOn, join_toList, single, List.splitOn_intercalate]
  · simp
  · intro piece member
    obtain ⟨part, here, rfl⟩ := List.mem_map.mp member
    exact absent part here
  · simpa using nonempty

theorem join_injective (single : between.toList = [sep]) {parts others : List String} (some : parts ≠ [])
    (some' : others ≠ []) (absent : ∀ part ∈ parts, sep ∉ part.toList)
    (absent' : ∀ part ∈ others, sep ∉ part.toList) (same : join between parts = join between others) :
    parts = others := by
  rw [← split_join single some absent, same, split_join single some' absent']

theorem join_split (single : between.toList = [sep]) (text : String) :
    join between (split sep text) = text := by
  apply String.toList_inj.mp
  rw [join_toList, split, single, List.map_map]
  have back : (String.toList ∘ String.ofList) = id := by funext l; simp
  rw [back, List.map_id, pieces_eq_splitOn, List.intercalate_splitOn]

theorem split_append (single : between.toList = [sep]) (front back : String) :
    split sep (front ++ between ++ back) = split sep front ++ split sep back := by
  simp only [split, String.toList_append, single, List.append_assoc, List.singleton_append,
    pieces_eq_splitOn]
  rw [List.splitOn_append_cons_self, List.map_append]

end

section
variable {sep : Char} {between : String}

theorem splitFirst_of_absent {text : String} (absent : sep ∉ text.toList) :
    splitFirst sep text = (text, none) := by
  have whole : text.toList.takeWhile (· != sep) = text.toList :=
    List.takeWhile_eq_self_iff.mpr fun c member => by
      simpa using fun same : c = sep => absent (same ▸ member)
  simp [splitFirst, whole]

theorem splitFirst_append (single : between.toList = [sep]) {front : String}
    (absent : sep ∉ front.toList) (back : String) :
    splitFirst sep (front ++ between ++ back) = (front, some back) := by
  have before : (front ++ between ++ back).toList.takeWhile (· != sep) = front.toList := by
    rw [String.toList_append, String.toList_append, single, List.append_assoc,
      List.takeWhile_append_of_pos fun c member => by
        simpa using fun same : c = sep => absent (same ▸ member)]
    simp
  unfold splitFirst
  dsimp only
  rw [before]
  simp [single]

theorem exists_cut (single : between.toList = [sep]) {text : String} (present : sep ∈ text.toList) :
    ∃ front back, sep ∉ front.toList ∧ text = front ++ between ++ back := by
  obtain ⟨front, back, cut, absent⟩ := List.eq_append_cons_of_mem present
  refine ⟨String.ofList front, String.ofList back, by simpa using absent, ?_⟩
  apply String.toList_inj.mp
  simp [cut, single]

theorem cut_unique (single : between.toList = [sep]) {front back front' back' : String}
    (absent : sep ∉ front.toList) (absent' : sep ∉ front'.toList)
    (same : front ++ between ++ back = front' ++ between ++ back') : front = front' := by
  have one := splitFirst_append single absent back
  rw [same, splitFirst_append single absent' back'] at one
  exact (congrArg Prod.fst one).symm

theorem last_unique (single : between.toList = [sep]) {front last front' last' : String}
    (absent : sep ∉ last.toList) (absent' : sep ∉ last'.toList)
    (same : front ++ between ++ last = front' ++ between ++ last') : front = front' ∧ last = last' := by
  have cut := congrArg (split sep) same
  rw [split_append single, split_append single, split_of_absent absent, split_of_absent absent'] at cut
  obtain ⟨pieces, here⟩ := List.append_inj' cut rfl
  constructor
  · rw [← join_split single front, pieces, join_split single]
  · exact (List.cons.inj here).1

end

theorem endsWith_iff {text ending : String} :
    endsWith text ending = true ↔ ∃ front, text = front ++ ending := by
  rw [endsWith, List.isSuffixOf_iff_suffix]
  constructor
  · rintro ⟨front, same⟩
    refine ⟨String.ofList front, ?_⟩
    apply String.toList_inj.mp
    simp [same]
  · rintro ⟨front, rfl⟩
    rw [String.toList_append]
    exact List.suffix_append _ _

theorem replaceChar_append (old : Char) (new : List Char) (front back : String) :
    replaceChar old new (front ++ back) = replaceChar old new front ++ replaceChar old new back := by
  apply String.toList_inj.mp
  simp [replaceChar]

theorem replaceChar_of_absent {old : Char} {text : String} (absent : old ∉ text.toList)
    (new : List Char) : replaceChar old new text = text := by
  apply String.toList_inj.mp
  rw [replaceChar, String.toList_ofList]
  calc text.toList.flatMap (fun c => if c = old then new else [c])
      = text.toList.flatMap (fun c => [c]) := by
        rw [List.flatMap_def, List.flatMap_def]
        congr 1
        apply List.map_congr_left
        intro c member
        have differ : c ≠ old := fun same => absent (same ▸ member)
        simp [differ]
    _ = text.toList := by simp

theorem replaceChar_join {old : Char} {between : String} (single : between.toList = [old])
    (new : List Char) {parts : List String} (absent : ∀ part ∈ parts, old ∉ part.toList) :
    replaceChar old new (join between parts) = join (String.ofList new) parts := by
  induction parts with
  | nil => rfl
  | cons part rest ih =>
    have here := absent part List.mem_cons_self
    have later : ∀ p ∈ rest, old ∉ p.toList := fun p member =>
      absent p (List.mem_cons_of_mem part member)
    cases rest with
    | nil => exact replaceChar_of_absent here new
    | cons next rest =>
      have between_replaced : replaceChar old new between = String.ofList new := by
        simp [replaceChar, single]
      rw [join, replaceChar_append, replaceChar_append, replaceChar_of_absent here, ih later,
        between_replaced]
      · rfl
      · simp

end PluginBuild.Text
