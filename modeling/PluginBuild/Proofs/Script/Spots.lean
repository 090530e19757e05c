import PluginBuild.Script.Format

/-!
Moving on in a text. The lines left behind and those still ahead are together always the same, so the
number of the line on which a text ends can be told from every spot in it.
-/

namespace PluginBuild.Script.Spot

@[simp] theorem next_rest (s : Spot) : s.next.rest = s.rest.tail := by
  unfold next
  cases same : s.rest with
  | nil => simp [same]
  | cons c rest =>
    dsimp only
    split <;> rfl

@[simp] theorem forward_rest (n : Nat) (s : Spot) : (s.forward n).rest = s.rest.drop n := by
  induction n generalizing s with
  | zero => rfl
  | succ n ih => rw [forward, ih, next_rest, List.drop_tail]

theorem forward_forward (m n : Nat) (s : Spot) : (s.forward m).forward n = s.forward (m + n) := by
  induction m generalizing s with
  | zero => rw [Nat.zero_add, forward]
  | succ m ih => rw [Nat.succ_add, forward, forward, ih]

def Leads (s t : Spot) : Prop := ∃ n, t = s.forward n

theorem Leads.refl (s : Spot) : s.Leads s := ⟨0, rfl⟩

theorem Leads.trans {s t u : Spot} (first : s.Leads t) (second : t.Leads u) : s.Leads u := by
  obtain ⟨m, rfl⟩ := first
  obtain ⟨n, rfl⟩ := second
  exact ⟨m + n, forward_forward m n s⟩

theorem leads_next (s : Spot) : s.Leads s.next := ⟨1, rfl⟩

theorem leads_forward (n : Nat) (s : Spot) : s.Leads (s.forward n) := ⟨n, rfl⟩

def endLine (s : Spot) : Nat := s.pos.line + s.rest.count '\n'

theorem next_endLine (s : Spot) : s.next.endLine = s.endLine := by
  unfold next
  cases same : s.rest with
  | nil => rfl
  | cons c rest =>
    dsimp only
    split
    · rename_i ends
      simp only [endLine, same, ends, List.count_cons_self]
      omega
    · rename_i inLine
      simp only [endLine, same]
      rw [List.count_cons_of_ne inLine]

theorem line_le_next (s : Spot) : s.pos.line ≤ s.next.pos.line := by
  unfold next
  split
  · exact Nat.le_refl _
  · split
    · exact Nat.le_succ _
    · exact Nat.le_refl _

theorem Leads.endLine {s t : Spot} (leads : s.Leads t) : t.endLine = s.endLine := by
  obtain ⟨n, rfl⟩ := leads
  induction n generalizing s with
  | zero => rfl
  | succ n ih => rw [forward, ih, next_endLine]

theorem Leads.line_le {s t : Spot} (leads : s.Leads t) : s.pos.line ≤ t.pos.line := by
  obtain ⟨n, rfl⟩ := leads
  induction n generalizing s with
  | zero => exact Nat.le_refl _
  | succ n ih => exact Nat.le_trans s.line_le_next ih

end PluginBuild.Script.Spot
