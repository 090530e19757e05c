import PluginBuild.Proofs.Text.Pieces
import PluginBuild.Text.Lines

/-!
The two notions of a line. Lines that end at every break agree with those that end at line feeds only as
long as no other break stands in them.
-/

namespace PluginBuild.Text

theorem return_notMem_normalizeNewlines (text : List Char) : '\r' ∉ normalizeNewlines text := by
  fun_induction normalizeNewlines text with
  | case1 => exact nofun
  | case2 rest ih => simpa using ih
  | case3 c rest notPair ih =>
    intro member
    rcases List.mem_cons.mp member with same | later
    · split at same
      · exact absurd same (by decide)
      · rename_i other
        exact other same.symm
    · exact ih later

/-- A carriage return at the end becomes a line feed of its own. -/
theorem normalizeNewlines_append_return (text : List Char) :
    normalizeNewlines (text ++ ['\r']) = normalizeNewlines text ++ ['\n'] := by
  fun_induction normalizeNewlines text with
  | case1 => rfl
  | case2 rest ih =>
    rw [List.cons_append, List.cons_append, normalizeNewlines, ih]
    rfl
  | case3 c rest notPair ih =>
    have single : ∀ more, c = '\r' → rest ++ ['\r'] = '\n' :: more → False := by
      intro more isReturn same
      cases rest with
      | nil => exact absurd (List.cons.inj same).1 (by decide)
      | cons d rest =>
        obtain ⟨rfl, -⟩ := List.cons.inj same
        exact notPair rest isReturn rfl
    rw [List.cons_append, normalizeNewlines.eq_3 c _ single, ih]
    rfl

theorem length_pieces (sep : Char) (text : List Char) : (pieces sep text).length = text.count sep + 1 := by
  rw [pieces_eq_splitOn]
  induction text with
  | nil => rfl
  | cons c rest ih =>
    rw [List.splitOn_cons_eq_if_modifyHead, List.count_cons]
    split
    · rw [List.length_cons, ih]
    · rw [List.length_modifyHead, ih, Nat.add_zero]

theorem splitLines_getD {text : List Char} (absent : '\r' ∉ text) (n : Nat) :
    (splitLines text).getD n [] = (text.splitOnP isLineBreak).getD n [] := by
  induction text generalizing n with
  | nil => cases n <;> rfl
  | cons c rest ih =>
    have later := ih fun member => absent (List.mem_cons_of_mem c member)
    have plain : c ≠ '\r' := fun same => absent (same ▸ List.mem_cons_self)
    have notPair : ∀ more, c = '\r' → rest = '\n' :: more → False := fun _ same => (plain same).elim
    rw [splitLines.eq_3 c rest notPair, List.splitOnP_cons_eq_if_modifyHead]
    cases isLineBreak c with
    | true =>
      cases n with
      | zero => rfl
      | succ n => exact later n
    | false =>
      obtain ⟨line, lines, split⟩ := List.exists_cons_of_ne_nil (List.splitOnP_ne_nil isLineBreak rest)
      rw [split] at later ⊢
      rw [if_neg Bool.false_ne_true, if_neg Bool.false_ne_true, List.modifyHead_cons]
      cases found : splitLines rest with
      | nil =>
        rw [found] at later
        have first : [] = line := later 0
        cases n with
        | zero => rw [← first]; rfl
        | succ n => exact later (n + 1)
      | cons line' lines' =>
        rw [found] at later
        have first : line' = line := later 0
        cases n with
        | zero => rw [first]; rfl
        | succ n => exact later (n + 1)

/-- Up to a line the two ways to cut a text agree if and only if no break but line feeds stands there. -/
theorem splitOnP_agrees_iff (text : List Char) (n : Nat) :
    (∀ i < n, (text.splitOnP isLineBreak).getD i [] = (pieces '\n' text).getD i []) ↔
      ∀ piece ∈ (pieces '\n' text).take n, ∀ c ∈ piece, isLineBreak c = false := by
  induction text generalizing n with
  | nil =>
    refine ⟨fun _ piece member c inside => ?_, fun _ _ _ => rfl⟩
    rw [List.mem_singleton.mp (List.mem_of_mem_take member)] at inside
    exact nomatch inside
  | cons c rest ih =>
    cases n with
    | zero => simp
    | succ n =>
      obtain ⟨piece, others, found⟩ := List.exists_cons_of_ne_nil (List.splitOn_ne_nil '\n' rest)
      obtain ⟨line, lines, split⟩ := List.exists_cons_of_ne_nil (List.splitOnP_ne_nil isLineBreak rest)
      rw [← pieces_eq_splitOn] at found
      rw [pieces, List.splitOnP_cons_eq_if_modifyHead, Nat.forall_lt_succ_left]
      by_cases ends : c = '\n'
      · rw [if_pos ends, if_pos (ends ▸ rfl)]
        simpa using ih n
      rw [if_neg ends, found, split]
      cases broken : isLineBreak c with
      | true =>
        constructor
        · rintro ⟨first, -⟩
          cases first
        · intro all
          rw [all (c :: piece) List.mem_cons_self c List.mem_cons_self] at broken
          cases broken
      | false =>
        have same := ih (n + 1)
        rw [found, split, Nat.forall_lt_succ_left] at same
        simpa [broken] using same

end PluginBuild.Text
