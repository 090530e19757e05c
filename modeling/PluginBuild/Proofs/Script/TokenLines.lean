import PluginBuild.Proofs.Script.Origins.Stmt
import PluginBuild.Proofs.Script.Scanning

/-!
The lines of a tree. Every node begins on a line of the text that it is read from: tokens do, and so does
the expression in a field of a formatted string, since the string goes on for as many lines.
-/

namespace PluginBuild.Script

/-- A spot in a text of so many lines, which are all ended. -/
structure Spot.IsWithin (lines : Nat) (s : Spot) : Prop where
  first : 1 ≤ s.pos.line
  last : s.endLine = lines + 1
  ended : ∀ c ∈ s.rest.getLast?, c = '\n'
  behind : s.rest = [] → s.pos.column = 0 ∧ 1 < s.pos.line

/-- A token on one of so many lines. A string also ends on one. -/
structure Token.IsWithin (lines : Nat) (t : Token) : Prop where
  first : 1 ≤ t.line
  last : t.line ≤ lines
  string : t.kind = .string → t.line + t.text.toList.count '\n' ≤ lines

theorem Token.IsWithin.mono {m n : Nat} {t : Token} (fewer : m ≤ n) (within : t.IsWithin m) : t.IsWithin n :=
  ⟨within.first, Nat.le_trans within.last fewer, fun isString => Nat.le_trans (within.string isString) fewer⟩

namespace Spot

variable {lines : Nat} {s t : Spot}

theorem forward_line (n : Nat) (s : Spot) :
    (s.forward n).pos.line = s.pos.line + (s.rest.take n).count '\n' := by
  have same := (s.leads_forward n).endLine
  have parts : s.rest.count '\n' = (s.rest.take n).count '\n' + (s.rest.drop n).count '\n' := by
    rw [← List.count_append, List.take_append_drop]
  rw [endLine, endLine, forward_rest] at same
  omega

theorem IsWithin.next (within : s.IsWithin lines) : s.next.IsWithin lines := by
  obtain ⟨first, last, ended, behind⟩ := within
  refine ⟨Nat.le_trans first s.line_le_next, s.next_endLine.trans last, ?_, ?_⟩
  · intro c member
    rw [next_rest, List.getLast?_tail] at member
    split at member
    · exact nomatch member
    · exact ended c member
  · intro none
    unfold Spot.next at none ⊢
    split
    · rename_i done
      exact behind done
    · rename_i c rest ahead
      rw [ahead] at none ended
      dsimp only at none
      have empty : rest = [] := by
        split at none <;> exact none
      have isEnd : c = '\n' := ended c (by simp [empty])
      rw [if_pos isEnd]
      exact ⟨rfl, Nat.lt_succ_of_le first⟩

theorem Leads.isWithin (leads : s.Leads t) (within : s.IsWithin lines) : t.IsWithin lines := by
  obtain ⟨n, rfl⟩ := leads
  induction n generalizing s with
  | zero => exact within
  | succ n ih => exact ih within.next

theorem IsWithin.line_le (within : s.IsWithin lines) (ahead : s.rest ≠ []) : s.pos.line ≤ lines := by
  obtain ⟨c, last⟩ := Option.isSome_iff_exists.mp (List.getLast?_isSome.mpr ahead)
  have ends := within.ended c last
  have member : '\n' ∈ s.rest := ends ▸ List.mem_of_getLast? last
  have some := List.count_pos_iff.mpr member
  have total := within.last
  unfold endLine at total
  omega

theorem IsWithin.markLine (within : s.IsWithin lines) : 1 ≤ s.markLine ∧ s.markLine ≤ lines := by
  unfold Spot.markLine
  split
  · rename_i none
    have empty : s.rest = [] := List.isEmpty_iff.mp none
    have total := within.last
    obtain ⟨column, more⟩ := within.behind empty
    rw [if_pos ⟨column, more⟩]
    rw [endLine, empty] at total
    simp only [List.count_nil] at total
    omega
  · rename_i some
    exact ⟨within.first, within.line_le fun none => some (none ▸ rfl)⟩

/-- Every token that is added lies on a line of the text. Behind the quote that ends a string the line goes
on. -/
theorem Gives.isWithin {token : Token} (gives : s.Gives token) (within : s.IsWithin lines) :
    token.IsWithin lines := by
  cases gives with
  | @spelled t kind count column cursor leads ahead word quoted =>
    have here := leads.isWithin within
    refine ⟨here.first, here.line_le ahead, fun isString => ?_⟩
    obtain ⟨n, quote, rfl, last, inLine⟩ := quoted isString
    have more : (t.forward (n + 1)).rest ≠ [] := by
      rw [forward_rest]
      intro none
      have short := List.drop_eq_nil_iff.mp none
      have long := (List.getElem?_eq_some_iff.mp last).1
      have whole : t.rest.getLast? = some quote := by
        rw [List.getLast?_eq_getElem?, show t.rest.length - 1 = n by omega, last]
      exact inLine (here.ended quote whole)
    have below := ((t.leads_forward (n + 1)).isWithin here).line_le more
    rw [forward_line] at below
    rwa [String.toList_ofList]
  | @mark t kind text column cursor leads noName noString =>
    obtain ⟨first, last⟩ := (leads.isWithin within).markLine
    exact ⟨first, last, fun isString => absurd isString noString⟩

theorem isWithin_of_ended {text : List Char} {pos : Pos} (first : 1 ≤ pos.line)
    (ended : text.getLast? = some '\n') :
    IsWithin (pos.line + text.count '\n' - 1) ⟨text, pos⟩ := by
  have member : '\n' ∈ text := List.mem_of_getLast? ended
  have some := List.count_pos_iff.mpr member
  refine ⟨first, ?_, ?_, ?_⟩
  · unfold endLine
    dsimp only
    omega
  · intro c last
    rw [ended] at last
    exact (Option.mem_some.mp last).symm
  · rintro rfl
    exact nomatch member

end Spot

end PluginBuild.Script
