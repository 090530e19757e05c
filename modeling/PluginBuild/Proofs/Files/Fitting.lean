import PluginBuild.Proofs.Files.Statuses

/-!
Requests in a tree that is on its way to another one. What leads somewhere there is not in the way of a
request here: a directory that is there can be made here, and a file that is there can be written. In a
tree with the same entries, every request to write goes the same way.
-/

namespace PluginBuild.Files

open PluginBuild.Text

namespace FileTree

variable {t last : FileTree} {p : Path}

/-- Names that lead to an entry in the tree that is to come lead to the same place now, or to an entry
of its kind, unless something on the way is still missing. -/
theorem follow_within (unlinked : last.IsUnlinked) (grows : t.Grows last) (follow : Bool) {links : Nat}
    {place q : Place} {names : List String} {ends : Bool} {x : Entry}
    (way : Way last true links place names ends (.found q x)) :
    t.follow follow links place names ends = .error .noEntry ∨
    t.follow follow links place names ends = .ok (.free q) ∨
    ∃ y, y.SameKind x ∧ t.follow follow links place names ends = .ok (.found q y) := by
  -- Where the way meets a place without an entry, it is free if no names are left and missing otherwise.
  generalize same : Destination.found q x = d at way
  induction way with
  | here =>
    cases same
    exact .inr (.inr ⟨.directory, trivial, follow_nil ..⟩)
  | above _ ih =>
    rw [follow_cons, if_pos rfl]
    exact ih same
  | free => exact nomatch same
  | @directory links place name rest ends d valid entry next ih =>
    rw [follow_cons, if_neg valid.1, if_neg (Nat.not_lt_of_le valid.2)]
    cases there : t.get? (place ++ [name]) with
    | none =>
      by_cases bare : rest = []
      · subst bare
        cases same
        cases next
        exact .inr (.inl (if_pos rfl))
      · exact .inl (if_neg bare)
    | some y =>
      obtain rfl := grows.eq_directory there entry
      exact ih same
  | @file links place name content valid entry =>
    cases same
    rw [follow_cons, if_neg valid.1, if_neg (Nat.not_lt_of_le valid.2)]
    cases there : t.get? (place ++ [name]) with
    | none => exact .inr (.inl (if_pos rfl))
    | some y =>
      obtain ⟨now, later, like⟩ := grows.keeps _ y there
      cases entry.symm.trans later
      cases y with
      | file old => exact .inr (.inr ⟨.file old, trivial, if_pos ⟨rfl, rfl⟩⟩)
      | link target => exact absurd like (by simp [Entry.SameKind])
      | directory => exact absurd like (by simp [Entry.SameKind])
  | link _ entry | through _ entry => exact absurd entry (unlinked.get?_ne _ _)

theorem locate_of_usable {s : String} (usable : IsPathText s) (t : FileTree) (follow : Bool) :
    t.locate follow s = match t.follow follow maxLinks (t.origin s) (Route.ofString s).names
        (Route.ofString s).endsInDirectory with
      | .error reason => .error (.refused reason s)
      | .ok d => .ok d := by
  have resolved : t.resolve follow s = t.follow follow maxLinks (t.origin s) (Route.ofString s).names
      (Route.ofString s).endsInDirectory :=
    (if_neg usable.nonempty).trans (if_neg (Nat.not_lt_of_le usable.short))
  have plain : ¬ s.toList.contains '\x00' = true := by simpa using usable.noNull
  rw [← resolved]
  exact if_neg plain

theorem follow_anyhow (unlinked : t.IsUnlinked) (follow : Bool) {links : Nat} {place : Place}
    {names : List String} {ends : Bool} :
    t.follow follow links place names ends = t.follow true links place names ends := by
  induction names generalizing place with
  | nil => rw [follow_nil, follow_nil]
  | cons name rest ih =>
    rw [follow_cons, follow_cons, ih, ih]
    cases there : t.get? (place ++ [name]) with
    | none => rfl
    | some x =>
      cases x with
      | file content => rfl
      | directory => rfl
      | link target => exact absurd there (unlinked.get?_ne _ _)

theorem locate_anyhow (unlinked : t.IsUnlinked) (follow : Bool) (s : String) :
    t.locate follow s = t.locate true s := by
  unfold locate resolve
  rw [follow_anyhow unlinked follow]

theorem ensureDirectory_of_directory {q : Place}
    (found : t.locate false p.text = .ok (.found q .directory)) : t.ensureDirectory p = .ok () t := by
  have known : t.isDirectory p.text = .ok true := by
    have followed : t.locate true p.text = .ok (.found q .directory) := by
      obtain ⟨usable, way⟩ := locate_eq_ok_iff.mp found
      exact locate_eq_ok_iff.mpr ⟨usable, way.followed (by simp)⟩
    rw [isDirectory, status?, followed]
    rfl
  rw [ensureDirectory, makeDirectory, make, found]
  dsimp only
  rw [known]

theorem locate_within (unlinked : last.IsUnlinked) (grows : t.Grows last) (follow : Bool) {s : String}
    {q : Place} {x : Entry} (leads : last.locate true s = .ok (.found q x)) :
    t.locate follow s = .error (.refused .noEntry s) ∨ t.locate follow s = .ok (.free q) ∨
      ∃ y, y.SameKind x ∧ t.locate follow s = .ok (.found q y) := by
  obtain ⟨usable, way⟩ := locate_eq_ok_iff.mp leads
  have same : last.origin s = t.origin s := by rw [origin, origin, grows.current]
  rw [same] at way
  rw [locate_of_usable usable]
  rcases follow_within unlinked grows follow way with missing | free | ⟨y, like, found⟩
  · exact .inl (by rw [missing])
  · exact .inr (.inl (by rw [free]))
  · exact .inr (.inr ⟨y, like, by rw [found]⟩)

theorem locate_ne_noEntry (unlinked : t.IsUnlinked) (follow : Bool) {anchor : Anchor}
    {front : List String} {name : String} (normal : (⟨anchor, front ++ [name]⟩ : Path).IsNormal)
    {q : Place} (above : t.locate true (⟨anchor, front⟩ : Path).text = .ok (.found q .directory)) :
    t.locate follow (⟨anchor, front ++ [name]⟩ : Path).text ≠
      .error (.refused .noEntry (⟨anchor, front ++ [name]⟩ : Path).text) := by
  have upper : (⟨anchor, front⟩ : Path).IsNormal := fun part member =>
    normal part (List.mem_append_left _ member)
  obtain ⟨-, way⟩ := locate_eq_ok_iff.mp above
  rw [Path.route_text upper, origin, Path.startsWith_text upper] at way
  intro missing
  unfold locate at missing
  split at missing
  · cases missing
  · rw [resolve_text normal] at missing
    split at missing
    · rename_i reason failed
      split at failed
      · cases failed
        cases missing
      · have onward := follow_append follow [name] (front ++ [name]).isEmpty unlinked way
        rw [show t.start ⟨anchor, front ++ [name]⟩ = _ from rfl, start] at failed
        have stepped := onward.symm.trans failed
        rw [follow_cons] at stepped
        cases missing
        split at stepped
        · rw [follow_nil] at stepped
          cases stepped
        · split at stepped
          · cases stepped
          · split at stepped
            · simp at stepped
            · rw [follow_nil] at stepped
              cases stepped
            · split at stepped <;> cases stepped
            · rename_i there
              exact absurd there (unlinked.get?_ne _ _)
    · cases missing

theorem Grows.put_within (grows : t.Grows last) {q : Place} {x y : Entry}
    (there : last.get? q = some y) (like : x.SameKind y) (inside : q ≠ []) : (t.put q x).Grows last := by
  refine ⟨grows.current, grows.platform, fun place e here => ?_⟩
  rw [get?_put t x inside] at here
  split at here
  · rename_i same
    cases here
    exact ⟨y, by rw [same, there], like⟩
  · exact grows.keeps place e here

section
variable (sound' : last.IsSound) (unlinked' : last.IsUnlinked)
include sound' unlinked'

theorem ensureDirectory_within (grows : t.Grows last) {q : Place}
    (leads : last.locate true p.text = .ok (.found q .directory))
    (reached : t.locate false p.text ≠ .error (.refused .noEntry p.text)) :
    ∃ t', t.ensureDirectory p = .ok () t' ∧ t'.Grows last := by
  rcases locate_within unlinked' grows false leads with missing | free | ⟨y, like, found⟩
  · exact absurd missing reached
  · refine ⟨t.put q .directory, ?_, ?_⟩
    · rw [ensureDirectory, makeDirectory, make, free]
    · obtain ⟨-, way⟩ := locate_eq_ok_iff.mp free
      exact grows.put_within (locate_entry sound' leads) trivial way.none_of_free.1
  · obtain rfl := like.to_directory
    exact ⟨t, ensureDirectory_of_directory found, grows⟩

theorem ensureDirectories_within {anchor : Anchor} {parts : List String}
    (normal : (⟨anchor, parts.reverse⟩ : Path).IsNormal) (sound : t.IsSound) (unlinked : t.IsUnlinked)
    (grows : t.Grows last) {q : Place}
    (leads : last.locate true (⟨anchor, parts.reverse⟩ : Path).text = .ok (.found q .directory)) :
    ∃ t', t.ensureDirectories anchor parts = .ok () t' ∧ t'.Grows last := by
  induction parts generalizing q with
  | nil =>
    rw [List.reverse_nil] at normal leads
    refine ensureDirectory_within sound' unlinked' grows leads fun missing => ?_
    obtain ⟨usable, -⟩ := locate_eq_ok_iff.mp leads
    rw [locate_of_usable usable, Path.route_text normal, follow_nil] at missing
    exact nomatch missing
  | cons part above ih =>
    rw [List.reverse_cons] at normal leads
    have upper : (⟨anchor, above.reverse⟩ : Path).IsNormal := fun part member =>
      normal part (List.mem_append_left _ member)
    obtain ⟨q', -, leads', -⟩ := locate_split normal (by simp) leads
    obtain ⟨t₁, made, grows₁⟩ := ih upper leads'
    rw [ensureDirectories, List.reverse_cons]
    split
    · rename_i lacking
      obtain rfl := (makeDirectory_error lacking).symm
      rw [made]
      have spec := t.ensureDirectories_spec anchor above
      have unlinked₁ : t₁.IsUnlinked := by
        have makes := spec.1
        rw [made] at makes
        exact (makes.isSound sound unlinked).2
      obtain ⟨q₁, here⟩ := spec.2 t₁ made
      exact ensureDirectory_within sound' unlinked' grows₁ leads
        (locate_ne_noEntry unlinked₁ false normal here)
    · rename_i other
      refine ensureDirectory_within sound' unlinked' grows leads fun missing => ?_
      refine other (⟨anchor, above.reverse ++ [part]⟩ : Path).text t ?_
      rw [makeDirectory, make, missing]

theorem ensurePath_within (normal : p.IsNormal) (sound : t.IsSound) (unlinked : t.IsUnlinked)
    (grows : t.Grows last) {q : Place} (leads : last.locate true p.text = .ok (.found q .directory)) :
    ∃ t', t.ensurePath p = .ok () t' ∧ t'.Grows last := by
  have same : (⟨p.anchor, p.parts.reverse.reverse⟩ : Path) = p := by rw [List.reverse_reverse]
  exact ensureDirectories_within sound' unlinked' (by rw [same]; exact normal) sound unlinked grows
    (by rw [same]; exact leads)

/-- A file that is there in the tree that is to come can be written, once its directory is there. -/
theorem write_within {anchor : Anchor} {front : List String} {name : String}
    (normal : (⟨anchor, front ++ [name]⟩ : Path).IsNormal) (unlinked : t.IsUnlinked)
    (grows : t.Grows last) {q above : Place} {content : Bytes}
    (leads : last.locate true (⟨anchor, front ++ [name]⟩ : Path).text = .ok (.found q (.file content)))
    (parent : t.locate true (⟨anchor, front⟩ : Path).text = .ok (.found above .directory))
    (new : Bytes) : ∃ t', t.write (⟨anchor, front ++ [name]⟩ : Path).text new = .ok () t' ∧
      t'.Grows last := by
  have there := locate_entry sound' leads
  rcases locate_within unlinked' grows true leads with missing | free | ⟨y, like, found⟩
  · exact absurd missing (locate_ne_noEntry unlinked true normal parent)
  · obtain ⟨inside, none⟩ := (locate_eq_ok_iff.mp free).2.none_of_free
    have grows' : (t.put q (.file new)).Grows last := grows.put_within there trivial inside
    have added : t.Grows (t.put q (.file new)) := .put inside fun x here => by simp [none] at here
    have unlinked₁ : (t.put q (.file new)).IsUnlinked :=
      Sets.isUnlinked ⟨rfl, inside, .inl none⟩ unlinked rfl
    have parent₁ := locate_grow_directory parent added
    refine ⟨t.put q (.file new), ?_, grows'⟩
    rw [write, free]
    dsimp only
    rcases locate_within unlinked' grows' true leads with missing | again | ⟨y, like, found⟩
    · exact absurd missing (locate_ne_noEntry unlinked₁ true normal parent₁)
    · have empty := (locate_eq_ok_iff.mp again).2.none_of_free.2
      rw [get?_put t _ inside, if_pos rfl] at empty
      exact nomatch empty
    · cases y with
      | file now => rw [found]
      | link target => exact absurd like (by simp [Entry.SameKind])
      | directory => exact absurd like (by simp [Entry.SameKind])
  · cases y with
    | file old =>
      have inside : q ≠ [] := by
        rintro rfl
        simp at there
      refine ⟨t.put q (.file new), ?_, grows.put_within there trivial inside⟩
      rw [write, found]
    | link target => exact absurd like (by simp [Entry.SameKind])
    | directory => exact absurd like (by simp [Entry.SameKind])

end

theorem write_of_found {s : String} {q : Place} {old : Bytes}
    (leads : t.locate true s = .ok (.found q (.file old))) (content : Bytes) :
    t.write s content = .ok () (t.put q (.file content)) := by
  rw [write, leads]

end FileTree

section
variable {t t' : FileTree} (same : ∀ q, t'.get? q = t.get? q)
include same

theorem Way.of_same {follow : Bool} {links : Nat} {place : Place} {names : List String} {ends : Bool}
    {d : Destination} (way : Way t follow links place names ends d) :
    Way t' follow links place names ends d := by
  induction way with
  | here => exact .here
  | above _ ih => exact .above ih
  | free valid none => exact .free valid ((same _).trans none)
  | directory valid entry _ ih => exact .directory valid ((same _).trans entry) ih
  | file valid entry => exact .file valid ((same _).trans entry)
  | link valid entry kept => exact .link valid ((same _).trans entry) kept
  | through valid entry followed _ ih => exact .through valid ((same _).trans entry) followed ih

variable (current : t'.current = t.current)
include current

theorem FileTree.locate_of_same {follow : Bool} {s : String} {d : Destination}
    (found : t.locate follow s = .ok d) : t'.locate follow s = .ok d := by
  obtain ⟨usable, way⟩ := locate_eq_ok_iff.mp found
  rw [origin, ← current] at way
  exact locate_eq_ok_iff.mpr ⟨usable, way.of_same same⟩

variable (platform : t'.platform = t.platform)
include platform

theorem FileTree.grows_of_put {q : Place} (inside : q ≠ []) (content new : Bytes) :
    (t.put q (.file content)).Grows (t'.put q (.file new)) := by
  refine ⟨current, platform, fun p x here => ?_⟩
  rw [get?_put _ _ inside] at here ⊢
  by_cases own : p = q
  · rw [if_pos own] at here ⊢
    cases here
    exact ⟨_, rfl, trivial⟩
  · rw [if_neg own] at here ⊢
    exact ⟨x, (same p).trans here, .refl x⟩

theorem FileTree.write_of_same {s : String} {content : Bytes} {u : FileTree}
    (done : t.write s content = .ok () u) (new : Bytes) : ∃ u' d, t'.write s new = .ok () u' ∧
      t.locate true s = .ok d ∧ t.Sets d.place (.file content) u ∧ t'.Sets d.place (.file new) u' := by
  obtain ⟨d, located, sets, leads⟩ := write_ok done
  have located' := locate_of_same same current located
  have written : ∃ u', t'.write s new = .ok () u' := by
    cases d with
    | found q x =>
      rw [write, located']
      cases x with
      | file old => exact ⟨_, rfl⟩
      | link target => exact ⟨_, rfl⟩
      | directory =>
        rw [write, located] at done
        exact nomatch done
    | free q =>
      have grows : u.Grows (t'.put q (.file new)) :=
        sets.eq ▸ grows_of_put same current platform sets.inside content new
      obtain ⟨now, leads', -⟩ := locate_grow_file leads grows
      refine ⟨t'.put q (.file new), ?_⟩
      rw [write, located']
      dsimp only
      rw [leads']
  obtain ⟨u', wrote⟩ := written
  obtain ⟨d', again, sets', -⟩ := write_ok wrote
  cases located'.symm.trans again
  exact ⟨u', d, wrote, located, sets, sets'⟩

end

end PluginBuild.Files
