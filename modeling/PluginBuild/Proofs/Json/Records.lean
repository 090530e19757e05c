import PluginBuild.Proofs.Entries
import PluginBuild.Proofs.Json.Reading

/-!
Members of objects, looked up by name. An object that is read from a text has no name twice, since a name
that comes again gets the new value in its old place.
-/

namespace PluginBuild.Json

abbrev Members := List (String × Value)

/-- No name comes twice. -/
def IsRecord (members : Members) : Prop := (members.map (·.1)).Nodup

section
variable {ms : Members} {name : String} {v : Value}

theorem IsRecord.nil : IsRecord [] := List.nodup_nil

theorem lookup_cons_eq (key : String) (v : Value) (rest : Members) (name : String) :
    ((key, v) :: rest).lookup name = if name = key then some v else rest.lookup name := by
  by_cases same : name = key
  · simp [same]
  · rw [List.lookup_cons, beq_false_of_ne same, if_neg same]

theorem lookup_insertMember (key : String) (v : Value) (ms : Members) (name : String) :
    (insertMember key v ms).lookup name = if name = key then some v else ms.lookup name := by
  induction ms with
  | nil => exact lookup_cons_eq key v [] name
  | cons m rest ih =>
    obtain ⟨k, w⟩ := m
    rw [insertMember]
    by_cases here : k = key
    · rw [if_pos here, here, lookup_cons_eq, lookup_cons_eq]
      by_cases same : name = key <;> simp [same]
    · rw [if_neg here, lookup_cons_eq, lookup_cons_eq, ih]
      by_cases same : name = key
      · simp [same, Ne.symm here]
      · simp [same]

theorem names_insertMember (key : String) (v : Value) (ms : Members) :
    (insertMember key v ms).map (·.1) = if key ∈ ms.map (·.1) then ms.map (·.1) else ms.map (·.1) ++ [key] := by
  induction ms with
  | nil => rfl
  | cons m rest ih =>
    obtain ⟨k, w⟩ := m
    rw [insertMember]
    by_cases here : k = key
    · simp [here]
    · rw [if_neg here, List.map_cons, ih]
      by_cases later : key ∈ rest.map (·.1)
      · simp [later]
      · simp [later, Ne.symm here]

theorem IsRecord.insertMember (record : IsRecord ms) (key : String) (v : Value) :
    IsRecord (insertMember key v ms) := by
  rw [IsRecord, names_insertMember]
  split
  · exact record
  · rename_i absent
    refine List.nodup_append.mpr ⟨record, List.nodup_cons.mpr ⟨List.not_mem_nil, List.nodup_nil⟩, ?_⟩
    intro name member other last
    rw [List.mem_singleton.mp last]
    rintro rfl
    exact absent member

end

def HasRecord (v : Value) : Prop := ∀ ms, v = .object ms → IsRecord ms

section
variable {n depth : Nat} {x rest : List Char} {v : Value}

theorem hasRecord_of_members {done : Members} (record : IsRecord done)
    (found : members n depth done x = .ok (v, rest)) : HasRecord v := by
  induction n generalizing done x with
  | zero => cases found
  | succ n ih =>
    rw [members_eq] at found
    cases first : member n depth x with
    | error e =>
      rw [first] at found
      cases found
    | ok result =>
      obtain ⟨⟨key, value⟩, rest₁⟩ := result
      rw [first] at found
      dsimp only at found
      split at found
      · cases found
        rintro ms ⟨⟩
        exact record.insertMember key value
      · exact ih (record.insertMember key value) found
      · cases found

theorem hasRecord_of_elements {done : List Value} (found : elements n depth done x = .ok (v, rest)) :
    HasRecord v := by
  induction n generalizing done x with
  | zero => cases found
  | succ n ih =>
    unfold elements at found
    split at found
    · cases found
    · dsimp only at found
      split at found
      · cases found
        rintro ms ⟨⟩
      · exact ih found
      · cases found

theorem hasRecord_of_word? (found : word? x = some (v, rest)) : HasRecord v := by
  obtain ⟨word, first, same⟩ := Option.map_eq_some_iff.mp found
  cases same
  have plain : ∀ word ∈ words, HasRecord word.2 := by
    simp only [words, List.forall_mem_cons]
    refine ⟨?_, ?_, ?_, ?_, ?_, ?_, List.forall_mem_nil _⟩
    all_goals rintro ms ⟨⟩
  exact plain word (List.mem_of_find?_eq_some first)

theorem hasRecord_of_number (found : number x = .ok (v, rest)) : HasRecord v := by
  unfold number at found
  dsimp only at found
  repeat' split at found
  all_goals cases found
  all_goals rintro ms ⟨⟩

theorem hasRecord_of_value (found : value n depth x = .ok (v, rest)) : HasRecord v := by
  cases n with
  | zero => cases found
  | succ n =>
    unfold value at found
    split at found
    · obtain ⟨result, -, same⟩ := map_ok found
      cases same
      rintro ms ⟨⟩
    · split at found
      · cases found
      · dsimp only at found
        split at found
        · cases found
          rintro ms ⟨⟩
          exact .nil
        · exact hasRecord_of_members .nil found
    · split at found
      · cases found
      · dsimp only at found
        split at found
        · cases found
          rintro ms ⟨⟩
        · exact hasRecord_of_elements found
    · split at found
      · rename_i result word
        cases found
        exact hasRecord_of_word? word
      · exact hasRecord_of_number found

end

theorem isRecord_of_parse {text : List Char} {ms : Members} (parsed : parse text = .ok (.object ms)) :
    IsRecord ms := by
  unfold parse at parsed
  split at parsed
  · cases parsed
  · split at parsed
    · cases parsed
    · rename_i v rest read
      dsimp only at parsed
      split at parsed
      · cases parsed
        exact hasRecord_of_value read ms rfl
      · cases parsed

end PluginBuild.Json
