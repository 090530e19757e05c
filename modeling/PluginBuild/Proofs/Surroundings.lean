import PluginBuild.Proofs.Fillings

/-!
What sources and classpaths show while files are written below a place. Their paths end outside of that
place and show what they showed before; a path that goes through the place on its way needs the
directories there from the beginning.
-/

namespace PluginBuild

open PluginBuild.Files PluginBuild.Text

namespace Files.FileTree

/-- The directories strictly below a place that a path goes through on its way are there. Only a path
with double dots goes through such directories and ends elsewhere. -/
def HasWay (t : FileTree) (root : Place) (p : Path) : Prop :=
  ∀ n < p.parts.length, root <+: writtenPlace (t.start p) (p.parts.take n) →
    writtenPlace (t.start p) (p.parts.take n) ≠ root →
      t.get? (writtenPlace (t.start p) (p.parts.take n)) = some .directory

instance (t : FileTree) (root : Place) (p : Path) : Decidable (t.HasWay root p) :=
  inferInstanceAs (Decidable (∀ n < p.parts.length, _ → _ → _))

variable {t t' : FileTree} {root : Place} {p : Path}

theorem start_of_current (current : t'.current = t.current) (p : Path) : t'.start p = t.start p := by
  rw [start, start, current]

theorem placeOf_of_current (current : t'.current = t.current) (p : Path) :
    t'.placeOf p = t.placeOf p := by
  rw [placeOf_eq, placeOf_eq, start_of_current current]

theorem HasWay.grow (way : t.HasWay root p) (grows : t.Grows t') : t'.HasWay root p := by
  intro n less below differ
  rw [start_of_current grows.current] at below differ ⊢
  exact grows.directory (way n less below differ)

theorem status?_outside (unlinked : t.IsUnlinked) (unlinked' : t'.IsUnlinked)
    (current : t'.current = t.current) (normal : p.IsNormal)
    (outside : ∀ q, q = root ∨ ¬ root <+: q →
      (t'.get? q = some .directory ↔ t.get? q = some .directory))
    (way : t.HasWay root p) (way' : t'.HasWay root p)
    (ends : t'.get? (t.placeOf p) = t.get? (t.placeOf p)) : t'.status? p.text = t.status? p.text := by
  refine status?_alike unlinked unlinked' current normal fun front _ before => ?_
  by_cases whole : front = p.parts
  · rw [whole]
    exact .inl ends
  have shorter : front.length < p.parts.length := by
    refine Nat.lt_of_le_of_ne before.length_le fun same => whole ?_
    exact before.eq_of_length same
  have taken : p.parts.take front.length = front := (List.prefix_iff_eq_take.mp before).symm
  have known := way front.length shorter
  have known' := way' front.length shorter
  rw [start_of_current current, taken] at known'
  rw [taken] at known
  generalize writtenPlace (t.start p) front = q at known known' ⊢
  by_cases inside : root <+: q ∧ q ≠ root
  · rw [known inside.1 inside.2, known' inside.1 inside.2]
    exact .inl rfl
  · have apart : q = root ∨ ¬ root <+: q := by
      by_cases same : q = root
      · exact .inl same
      · exact .inr fun below => inside ⟨below, same⟩
    by_cases directory : t.get? q = some .directory
    · exact .inl (((outside q apart).mpr directory).trans directory.symm)
    · exact .inr ⟨whole, directory, mt (outside q apart).mp directory⟩

theorem IsSound.up_notMem_current (sound : t.IsSound) : ".." ∉ t.current := fun member =>
  (sound.isFileName_of_mem sound.current _ member).notAbove rfl

theorem placeOf_absolute (sound : t.IsSound) (p : Path) : t.placeOf (t.absolute p) = t.placeOf p := by
  unfold absolute Path.resolve
  split
  · rfl
  · rename_i relative
    rw [placeOf_eq, placeOf_eq, start, start, if_pos (by rfl), if_neg relative, writtenPlace_append,
      writtenPlace_of_down sound.up_notMem_current]
    rfl

/-- A path as seen from the root has a way where the path itself has one: the directories above the
current one are there. -/
theorem HasWay.absolute (sound : t.IsSound) (way : t.HasWay root p) : t.HasWay root (t.absolute p) := by
  have down := sound.up_notMem_current
  unfold FileTree.absolute Path.resolve
  split
  · exact way
  · rename_i relative
    have start' : t.start ⟨.root, t.current ++ p.parts⟩ = [] := rfl
    have start : t.start p = t.current := if_neg relative
    intro n less below differ
    rw [start'] at below differ ⊢
    dsimp only at less below differ ⊢
    rw [List.take_append] at below differ ⊢
    by_cases early : n ≤ t.current.length
    · rw [Nat.sub_eq_zero_of_le early, List.take_zero, List.append_nil,
        writtenPlace_of_down fun member => down (List.mem_of_mem_take member), List.nil_append]
      have current := sound.current
      by_cases whole : t.current.drop n = []
      · rwa [← List.take_append_drop n t.current, whole, List.append_nil] at current
      · rw [← List.take_append_drop n t.current] at current
        exact sound.above whole current
    · rw [List.take_of_length_le (Nat.le_of_not_le early), writtenPlace_append, writtenPlace_of_down down,
        List.nil_append] at below differ ⊢
      rw [List.length_append] at less
      have known := way (n - t.current.length) (by omega)
      rw [start] at known
      exact known below differ

theorem read_eq_ok_iff {s : String} {content : Bytes} :
    t.read s = .ok content ↔ t.status? s = .ok (some (.file content)) := by
  refine ⟨fun done => ?_, read_of_status⟩
  unfold read at done
  unfold status?
  split at done
  · exact nomatch done
  · rename_i located
    cases done
    rw [located]
  · exact nomatch done
  · exact nomatch done

end Files.FileTree

/-- Trees without links that are alike outside of a place, and in which that place is a directory. -/
structure IsAlikeOutside (root : Place) (t t' : FileTree) : Prop where
  current : t'.current = t.current
  unlinked : t.IsUnlinked
  unlinked' : t'.IsUnlinked
  directory : t.get? root = some .directory ∧ t'.get? root = some .directory
  outside : ∀ q, ¬ root <+: q → t'.get? q = t.get? q

namespace IsAlikeOutside

variable {root : Place} {t t' : FileTree} {p : Path}

theorem symm (alike : IsAlikeOutside root t t') : IsAlikeOutside root t' t :=
  ⟨alike.current.symm, alike.unlinked', alike.unlinked, alike.directory.symm,
    fun q apart => (alike.outside q apart).symm⟩

theorem get? (alike : IsAlikeOutside root t t') {q : Place} (apart : q = root ∨ ¬ root <+: q) :
    t'.get? q = t.get? q := by
  rcases apart with rfl | apart
  · rw [alike.directory.1, alike.directory.2]
  · exact alike.outside q apart

theorem status? (alike : IsAlikeOutside root t t') (normal : p.IsNormal) (way : t.HasWay root p)
    (way' : t'.HasWay root p) (apart : ¬ root <+: t.placeOf p) :
    t'.status? p.text = t.status? p.text :=
  FileTree.status?_outside alike.unlinked alike.unlinked' alike.current normal
    (fun q apart => by rw [alike.get? apart]) way way' (alike.get? (.inr apart))

theorem entryStays (alike : IsAlikeOutside root t t') (normal : p.IsNormal) (way : t.HasWay root p)
    (way' : t'.HasWay root p) (apart : ¬ root <+: t.placeOf p) : EntryStays t t' p := by
  refine ⟨normal, alike.status? normal way way' apart, fun name x there => ?_⟩
  have beside : t.placeOf p ++ [name] = root ∨ ¬ root <+: t.placeOf p ++ [name] := by
    by_cases below : root <+: t.placeOf p ++ [name]
    · refine .inl ?_
      rcases List.prefix_concat_iff.mp below with same | inside
      · exact same.symm
      · exact absurd inside apart
    · exact .inr below
  refine ⟨x, ?_, .refl x⟩
  rw [FileTree.placeOf_of_current alike.current, alike.get? beside, there]

end IsAlikeOutside

/-- The entries of a classpath, seen from the current directory. -/
def classpathOf (c : ExecutionContext) (extra : List Path) (here : Except FileError Place) :
    Except Failure (List Path) :=
  match c.loaded with
  | none => .error (.classpath .unresolved)
  | some locations =>
    match locations.mapM (pathOfLocation here) with
    | .error e => .error (.classpath e)
    | .ok loaded => .ok ((c.boot.getD []).map Path.ofString ++ loaded ++ extra)

theorem classpathOf_eq (c : ExecutionContext) (extra : List Path) (here : Except FileError Place) :
    classpathOf c extra here =
      (entriesFrom c.boot (c.loaded.map (·.map Location.ofValue)) extra here).mapError .classpath := by
  unfold classpathOf entriesFrom
  cases c.loaded with
  | none => rfl
  | some locations =>
    have values : (locations.map Location.ofValue).mapM (Location.toPath here) =
        locations.mapM (pathOfLocation here) := List.mapM_map
    simp only [Option.map_some, values]
    cases locations.mapM (pathOfLocation here) <;> rfl

theorem assembleClasspath_run (c : ExecutionContext) (extra : List Path) (w : Workspace) :
    assembleClasspath c extra w = match classpathOf c extra w.files.here with
      | .ok entries => .ok entries (w.warned c.boot)
      | .error e => .error e (w.warned c.boot) := by
  rw [assembleClasspath, gatherClasspath_run, classpathOf_eq]
  cases entriesFrom c.boot (c.loaded.map (·.map Location.ofValue)) extra w.files.here <;> rfl

theorem isNormal_of_location {t : FileTree} (sound : t.IsSound) {location : Json.Value} {p : Path}
    (known : pathOfLocation (.ok t.current) location = .ok p) : p.IsNormal := by
  have current : (⟨.root, t.current⟩ : Path).IsNormal := fun name member =>
    Path.isNormalPart_of_isFileName (sound.isFileName_of_mem sound.current name member)
  unfold pathOfLocation Location.ofValue at known
  split at known
  · rw [Location.toPath] at known
    split at known
    · cases known
      exact current
    · obtain ⟨url, -, made⟩ := bind_ok known
      unfold Url.toPath at made
      repeat' split at made
      all_goals cases made
      all_goals exact Path.isNormal_ofString _
  · cases known

theorem isNormal_of_mapM {t : FileTree} (sound : t.IsSound) {locations : List Json.Value}
    {loaded : List Path} (known : locations.mapM (pathOfLocation (.ok t.current)) = .ok loaded) :
    ∀ entry ∈ loaded, entry.IsNormal := by
  induction locations generalizing loaded with
  | nil =>
    cases known
    exact fun _ member => nomatch member
  | cons location rest ih =>
    rw [List.mapM_cons] at known
    cases here : pathOfLocation (.ok t.current) location with
    | error e =>
      rw [here] at known
      exact nomatch known
    | ok p =>
      rw [here] at known
      cases later : rest.mapM (pathOfLocation (.ok t.current)) with
      | error e =>
        rw [later] at known
        exact nomatch known
      | ok others =>
        rw [later] at known
        cases known
        intro entry member
        rcases List.mem_cons.mp member with rfl | inside
        · exact isNormal_of_location sound here
        · exact ih later entry inside

theorem isNormal_of_classpathOf {c : ExecutionContext} {extra : List String} {t : FileTree}
    (sound : t.IsSound) {classpath : List Path}
    (known : classpathOf c (extra.map Path.ofString) t.here = .ok classpath) :
    ∀ entry ∈ classpath, entry.IsNormal := by
  have given : ∀ texts : List String, ∀ entry ∈ texts.map Path.ofString, entry.IsNormal := by
    intro texts entry member
    obtain ⟨text, -, rfl⟩ := List.mem_map.mp member
    exact Path.isNormal_ofString text
  rw [FileTree.here, if_pos sound.current] at known
  unfold classpathOf at known
  split at known
  · cases known
  · split at known
    · cases known
    · rename_i loaded mapped
      cases known
      intro entry member
      rcases List.mem_append.mp member with front | last
      · rcases List.mem_append.mp front with boot | inside
        · exact given _ entry boot
        · exact isNormal_of_mapM sound mapped entry inside
      · exact given extra entry last

theorem classpathOf_of_assembled {c : ExecutionContext} {extra classpath : List Path} {w w₀ : Workspace}
    (assembled : assembleClasspath c extra w = .ok classpath w₀) :
    classpathOf c extra w.files.here = .ok classpath := by
  rw [assembleClasspath_run] at assembled
  split at assembled
  · rename_i known
    cases assembled
    exact known
  · exact nomatch assembled

theorem assembled_of_here {c : ExecutionContext} {extra classpath : List Path} {w w₀ v : Workspace}
    (assembled : assembleClasspath c extra w = .ok classpath w₀) (here : v.files.here = w.files.here) :
    ∃ v₀, assembleClasspath c extra v = .ok classpath v₀ := by
  rw [assembleClasspath_run, here, classpathOf_of_assembled assembled]
  exact ⟨_, rfl⟩

end PluginBuild
