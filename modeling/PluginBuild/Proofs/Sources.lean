import PluginBuild.Compiler
import PluginBuild.Proofs.Walk

/-!
The scripts that a search finds, and what their absolute paths read. Compilations change neither: the
file of a script has another ending than what they write.
-/

namespace PluginBuild.Files

open PluginBuild.Text

namespace FileTree

variable {t t' : FileTree} {p : Place} {x : Entry}

theorem IsSound.isFileName_of_mem (sound : t.IsSound) (there : t.get? p = some x) :
    ∀ name ∈ p, IsFileName name := by
  induction p using List.reverseRecOn generalizing x with
  | nil => exact fun _ member => nomatch member
  | append_singleton front last ih =>
    intro name member
    rcases List.mem_append.mp member with above | here
    · exact ih (sound.parent there) name above
    · rw [List.mem_singleton.mp here]
      exact (sound.named there).valid

theorem IsSound.way (sound : t.IsSound) (unlinked : t.IsUnlinked)
    (here : t.get? p = some .directory) :
    Way t true maxLinks [] p false (.found p .directory) := by
  induction p using List.reverseRecOn with
  | nil => exact .here
  | append_singleton front last ih =>
    exact Way.append unlinked (ih (sound.parent here))
      (.directory (sound.named here).isLookedUp here .here)

theorem absolute?_of_isSound (sound : t.IsSound) (q : Path) : t.absolute? q = .ok (t.absolute q) := by
  unfold absolute?
  split
  · rename_i absolute
    exact congrArg Except.ok (if_pos absolute).symm
  · rw [here, if_pos sound.current]
    rfl

theorem isNormal_absolute (sound : t.IsSound) {q : Path} (normal : q.IsNormal) :
    (t.absolute q).IsNormal :=
  Path.IsNormal.resolve (fun name member =>
    Path.isNormalPart_of_isFileName (sound.isFileName_of_mem sound.current name member)) normal

theorem isAbsolute_absolute (t : FileTree) (q : Path) : (t.absolute q).isAbsolute = true := by
  unfold absolute Path.resolve
  split
  · assumption
  · rfl

theorem absolute_of_current (same : t'.current = t.current) (q : Path) :
    t'.absolute q = t.absolute q := by
  rw [absolute, absolute, same]

theorem absolute?_of_current (sound : t.IsSound) (sound' : t'.IsSound) (same : t'.current = t.current)
    (q : Path) : t'.absolute? q = t.absolute? q := by
  rw [absolute?_of_isSound sound, absolute?_of_isSound sound', absolute_of_current same]

theorem Reaches.way_absolute {s name : String} {content : Bytes} (reaches : t.Reaches s p)
    (sound : t.IsSound) (unlinked : t.IsUnlinked)
    (file : t.get? (p ++ [name]) = some (.file content)) :
    Way t true maxLinks [] (t.absolute ((Path.ofString s).child name)).parts false
      (.found (p ++ [name]) (.file content)) := by
  have valid := sound.named file
  have last : Way t true maxLinks p [name] false (.found (p ++ [name]) (.file content)) :=
    .file valid.isLookedUp file
  have whole := Way.append unlinked reaches last
  rw [Path.child_of_isFileName _ valid.valid]
  rw [origin, ← Path.isAbsolute_ofString, Path.names_eq_parts] at whole
  unfold absolute Path.resolve
  split
  · rename_i absolute
    have fromRoot : (Path.ofString s).isAbsolute = true := absolute
    rwa [if_pos fromRoot] at whole
  · rename_i relative
    have fromHere : ¬ (Path.ofString s).isAbsolute = true := relative
    rw [if_neg fromHere] at whole
    exact Way.append unlinked (sound.way unlinked sound.current) whole

theorem Reaches.read_absolute {s name : String} {content : Bytes} (reaches : t.Reaches s p)
    (sound : t.IsSound) (unlinked : t.IsUnlinked)
    (file : t.get? (p ++ [name]) = some (.file content))
    (usable : IsPathText (t.absolute ((Path.ofString s).child name)).text) :
    t.read (t.absolute ((Path.ofString s).child name)).text = .ok content := by
  have way := reaches.way_absolute sound unlinked file
  have normal : (t.absolute ((Path.ofString s).child name)).IsNormal := by
    refine isNormal_absolute sound ?_
    rw [Path.child_of_isFileName _ (sound.named file).valid]
    exact Path.isNormal_append (Path.isNormal_ofString s) (by
      simpa using Path.isNormalPart_of_isFileName (sound.named file).valid)
  have located : t.locate true (t.absolute ((Path.ofString s).child name)).text =
      .ok (.found (p ++ [name]) (.file content)) := by
    refine locate_eq_ok_iff.mpr ⟨usable, ?_⟩
    have nonempty : (t.absolute ((Path.ofString s).child name)).parts.isEmpty = false := by
      cases parts : (t.absolute ((Path.ofString s).child name)).parts with
      | nil =>
        rw [parts] at way
        have ended := follow_of_way way
        rw [follow_nil] at ended
        obtain ⟨-, same⟩ := Destination.found.inj (Except.ok.inj ended)
        exact nomatch same
      | cons => rfl
    rw [origin, Path.startsWith_text normal, isAbsolute_absolute, if_pos rfl, Path.route_text normal]
    simpa only [nonempty] using way
  rw [read, located]

theorem read_usable {s : String} {content : Bytes} (done : t.read s = .ok content) : IsPathText s := by
  unfold read at done
  split at done
  · exact nomatch done
  · rename_i located
    exact (locate_eq_ok_iff.mp located).1
  · exact nomatch done
  · exact nomatch done

end FileTree

end PluginBuild.Files

namespace PluginBuild

open PluginBuild.Files PluginBuild.Text

/-- A script that a search may find: a file in a directory that is reached, with the ending that is
asked for. -/
def IsSource (t : FileTree) (suffix : String) (source : Path) : Prop :=
  ∃ directory p name content, source = (Path.ofString directory).child name ∧
    t.Reaches directory p ∧ t.get? (p ++ [name]) = some (.file content) ∧
    endsWith name suffix = true

theorem exists_of_mem_sourcesOfAll {sources : String → Except Failure (List Path)}
    {names : List String} {found : List Path} (known : sourcesOfAll sources names = .ok found)
    {source : Path} (member : source ∈ found) :
    ∃ name ∈ names, ∃ here, sources name = .ok here ∧ source ∈ here := by
  induction names generalizing found with
  | nil =>
    cases known
    cases member
  | cons name rest ih =>
    rw [sourcesOfAll_cons] at known
    obtain ⟨here, deeper, first, later, rfl⟩ := bothLists_ok known
    rcases List.mem_append.mp member with front | back
    · exact ⟨name, List.mem_cons_self, here, first, front⟩
    · obtain ⟨other, listed, one⟩ := ih later back
      exact ⟨other, List.mem_cons_of_mem name listed, one⟩

theorem found_below {t : FileTree} {search : Search} (sound : t.IsSound) (unlinked : t.IsUnlinked)
    {room : Nat} {directory : String} {p : Place} (nonempty : directory ≠ "")
    (reaches : t.Reaches directory p) {sources : List Path}
    (found : search.below t room directory = .ok sources) :
    ∀ source ∈ sources, ∃ directory' q name content, source = (Path.ofString directory').child name ∧
      t.Reaches directory' q ∧ p <+: q ∧ t.get? (q ++ [name]) = some (.file content) ∧
      endsWith name search.suffix = true := by
  induction room using Nat.strongRecOn generalizing directory p sources with
  | ind room ih =>
    by_cases usable : IsPathText directory
    · rw [Search.below_eq (reaches.list unlinked usable) (FileTree.isLink_eq_false sound unlinked)] at found
      obtain ⟨here, deeper, known, below, rfl⟩ := bothLists_ok found
      cases known
      intro source member
      rcases List.mem_append.mp member with file | later
      · obtain ⟨name, leaf, asked, rfl⟩ := Search.of_mem_visited file
        obtain ⟨content, there⟩ := (FileTree.mem_leaves unlinked).mp leaf
        exact ⟨directory, p, name, content, rfl, reaches, List.prefix_rfl, there, asked⟩
      · cases room with
        | zero =>
          unfold Search.deeper at below
          dsimp only at below
          split at below <;> cases below
          cases later
        | succ room =>
          -- Found further down, so below one of the directories that are entered.
          obtain ⟨name, listed, inner, found, member⟩ := exists_of_mem_sourcesOfAll below later
          have entry := FileTree.mem_subdirectories.mp (Search.mem_entered listed)
          obtain ⟨directory', q, name', content, rfl, reaches', within, file⟩ :=
            ih room (Nat.lt_succ_self room) (inside_ne_empty nonempty) (reaches.inside nonempty sound entry)
              found source member
          exact ⟨directory', q, name', content, rfl, reaches',
            (List.prefix_append _ _).trans within, file⟩
    · obtain ⟨e, refused⟩ := FileTree.list_error (t := t) usable
      rw [Search.below_refused refused] at found
      cases found

theorem Search.reaches_of_find {s : Search} {t : FileTree} (unlinked : t.IsUnlinked)
    (normal : s.root.IsNormal) {sources : List Path} (found : s.find t = .ok sources) :
    t.Reaches s.root.text (t.placeOf s.root) := by
  rw [Search.find_eq] at found
  cases listed : t.list s.root.text with
  | error e =>
    rw [Search.below_refused listed] at found
    cases found
  | ok listing =>
    obtain ⟨p, located⟩ := FileTree.list_ok listed
    rw [← show p = t.placeOf s.root from FileTree.locate_place unlinked normal located]
    exact .of_locate located

theorem Search.isSource_of_find {s : Search} {t : FileTree} (sound : t.IsSound)
    (unlinked : t.IsUnlinked) (normal : s.root.IsNormal) {sources : List Path}
    (found : s.find t = .ok sources) : ∀ source ∈ sources, IsSource t s.suffix source := by
  have reaches := Search.reaches_of_find unlinked normal found
  rw [Search.find_eq] at found
  intro source member
  obtain ⟨directory, p, name, content, same, reaches', -, there, asked⟩ :=
    found_below sound unlinked (Path.text_ne_empty normal) reaches found source member
  exact ⟨directory, p, name, content, same, reaches', there, asked⟩

theorem Search.placeOf_of_find {s : Search} {t : FileTree} (sound : t.IsSound) (unlinked : t.IsUnlinked)
    (normal : s.root.IsNormal) {sources : List Path} (found : s.find t = .ok sources) :
    ∀ source ∈ sources, source.IsNormal ∧ t.placeOf s.root <+: t.placeOf (t.absolute source) := by
  have reaches := Search.reaches_of_find unlinked normal found
  rw [Search.find_eq] at found
  intro source member
  obtain ⟨directory, p, name, content, rfl, reaches', below, there, -⟩ :=
    found_below sound unlinked (Path.text_ne_empty normal) reaches found source member
  have valid := (sound.named there).valid
  constructor
  · rw [Path.child_of_isFileName _ valid]
    exact Path.isNormal_append (Path.isNormal_ofString directory)
      (by simpa using Path.isNormalPart_of_isFileName valid)
  · have place := (reaches'.way_absolute sound unlinked there).place_eq unlinked
    have whole : t.placeOf (t.absolute ((Path.ofString directory).child name)) = p ++ [name] := by
      rw [FileTree.placeOf, if_pos (FileTree.isAbsolute_absolute t _)]
      exact place.symm
    rw [whole]
    exact below.trans (List.prefix_append _ _)

theorem read_of_grows {t t' : FileTree} {p : Path} {content : Bytes} (sound : t.IsSound)
    (unlinked : t.IsUnlinked) (normal : p.IsNormal) (grows : t.Grows t')
    (same : t'.get? (t.placeOf p) = t.get? (t.placeOf p)) (read : t.read p.text = .ok content) :
    t'.read p.text = .ok content := by
  unfold FileTree.read at read
  split at read
  · cases read
  · rename_i place old located
    cases read
    obtain ⟨now, later, there⟩ := FileTree.locate_grow_file located grows
    have here : place = t.placeOf p := FileTree.locate_place unlinked normal located
    rw [← here, there, FileTree.locate_entry sound located] at same
    cases same
    rw [FileTree.read, later]
  · cases read
  · cases read

theorem IsSource.read_of_evolved {root : Place} {t t' : FileTree} {suffix : String} {source : Path}
    (script : IsSource t suffix source) (sound : t.IsSound) (unlinked : t.IsUnlinked)
    (other : ∀ name, endsWith name suffix = true → endsWith name compiledEnding = false)
    (evolved : IsEvolved root t t') {bytes : Bytes}
    (read : t'.read (t'.absolute source).text = .ok bytes) :
    t.read (t.absolute source).text = .ok bytes := by
  obtain ⟨directory, p, name, content, rfl, reaches, there, asked⟩ := script
  have grows := evolved.evolves.grows
  have usable := FileTree.read_usable read
  obtain ⟨now, there'⟩ := grows.file there
  have read' := (reaches.grow grows).read_absolute evolved.sound evolved.unlinked there' usable
  obtain rfl : bytes = now := Except.ok.inj (read.symm.trans read')
  rw [FileTree.absolute_of_current grows.current] at usable
  exact reaches.read_absolute sound unlinked
    (evolved.evolves.get?_of_other_ending (other name asked) there') usable

end PluginBuild
