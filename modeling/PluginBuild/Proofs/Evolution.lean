import PluginBuild.Proofs.Confinement
import PluginBuild.Proofs.Files.Sound

/-!
What compilations do to a tree without links, seen from the place of the output directory. Below it
compiled files and new directories come and go on; everything else stays as it is.
-/

namespace PluginBuild

open PluginBuild.Files PluginBuild.Text

def compiledEnding : String := ".pyc"

/-- A tree comes from another by compilations into a place: what has changed lies below that place,
and is a compiled file or a directory where there was nothing. -/
structure Evolves (root : Place) (t t' : FileTree) : Prop where
  grows : t.Grows t'
  frame : ∀ place, t'.get? place = t.get? place ∨ ∃ back, back ≠ [] ∧ place = root ++ back ∧
    ((∃ content, t'.get? place = some (.file content) ∧
        ∃ last ∈ back.getLast?, endsWith last compiledEnding = true) ∨
      t.get? place = none ∧ t'.get? place = some .directory)

namespace Evolves

variable {root : Place} {t t' t'' : FileTree}

theorem refl (root : Place) (t : FileTree) : Evolves root t t :=
  ⟨.refl t, fun _ => .inl rfl⟩

theorem trans (one : Evolves root t t') (two : Evolves root t' t'') : Evolves root t t'' := by
  refine ⟨one.grows.trans two.grows, fun place => ?_⟩
  rcases two.frame place with same | ⟨back, some, below, compiled | ⟨free, made⟩⟩
  · rcases one.frame place with before | ⟨back, some, below, ⟨content, file, ending⟩ | ⟨free, made⟩⟩
    · exact .inl (same.trans before)
    · exact .inr ⟨back, some, below, .inl ⟨content, same.trans file, ending⟩⟩
    · exact .inr ⟨back, some, below, .inr ⟨free, same.trans made⟩⟩
  · exact .inr ⟨back, some, below, .inl compiled⟩
  · refine .inr ⟨back, some, below, .inr ⟨?_, made⟩⟩
    cases there : t.get? place with
    | none => rfl
    | some x =>
      obtain ⟨now, still, -⟩ := one.grows.keeps place x there
      simp [free] at still

theorem get?_of_not_below (evolves : Evolves root t t') {place : Place} (outside : ¬ root <+: place) :
    t'.get? place = t.get? place := by
  rcases evolves.frame place with same | ⟨back, -, below, -⟩
  · exact same
  · exact absurd (below ▸ List.prefix_append root back) outside

theorem get?_of_other_ending (evolves : Evolves root t t') {place : Place} {name : String}
    (other : endsWith name compiledEnding = false) {content : Bytes}
    (file : t'.get? (place ++ [name]) = some (.file content)) :
    t.get? (place ++ [name]) = some (.file content) := by
  rcases evolves.frame (place ++ [name]) with same | ⟨back, some, below, ⟨-, -, last, isLast, ending⟩ |
    ⟨-, made⟩⟩
  · rwa [← same]
  · have whole := congrArg List.getLast? below
    rw [List.getLast?_concat, List.getLast?_append, isLast] at whole
    cases whole
    simp [other] at ending
  · simp [made] at file

end Evolves

theorem writtenPlace_append (place : Place) (front back : List String) :
    writtenPlace place (front ++ back) = writtenPlace (writtenPlace place front) back := by
  simp [writtenPlace]

section
variable {directory : Path} {root : Place} {t t' : FileTree}

theorem place_of_made (unlinked : t'.IsUnlinked) (normal : directory.IsNormal)
    (leads : t.locate true directory.text = .ok (.found root .directory)) (sound : t.IsSound)
    (grows : t.Grows t') {path : String} (confined : IsConfined path) {q : Path} {place : Place}
    (above : q.IsAtOrAbove (directory.child path).parent) (free : t.get? place = none)
    (found : t'.locate true q.text = .ok (.found place .directory)) :
    ∃ back, back ≠ [] ∧ back <+: split '/' path ∧ place = root ++ back := by
  rw [confined.child] at above
  obtain ⟨anchor, parts⟩ := q
  obtain ⟨rfl, upper⟩ := above
  have upper : parts <+: directory.parts ++ split '/' path := upper.trans (List.dropLast_prefix _)
  rcases List.prefix_or_prefix_of_prefix upper (List.prefix_append directory.parts _) with
    high | low
  · -- The directory was there, and so was every directory above it.
    exfalso
    have there : ∃ place', t.locate true (⟨directory.anchor, parts⟩ : Path).text =
        .ok (.found place' .directory) := by
      obtain ⟨more, whole⟩ := high
      by_cases same : more = []
      · rw [same, List.append_nil] at whole
        exact ⟨root, by rw [whole]; exact leads⟩
      · have normal' : (⟨directory.anchor, parts ++ more⟩ : Path).IsNormal := by
          rw [whole]
          exact normal
        have leads' : t.locate true (⟨directory.anchor, parts ++ more⟩ : Path).text =
            .ok (.found root .directory) := by
          rw [whole]
          exact leads
        obtain ⟨place', -, first, -⟩ := FileTree.locate_split normal' same leads'
        exact ⟨place', first⟩
    obtain ⟨place', there⟩ := there
    have still := FileTree.locate_grow_directory there grows
    obtain ⟨rfl, -⟩ := Destination.found.inj (Except.ok.inj (still.symm.trans found))
    simp [FileTree.locate_entry sound there] at free
  · -- Otherwise the way goes on below the directory, down the names of the file.
    obtain ⟨back, rfl⟩ := low
    have down : back <+: split '/' path := (List.prefix_append_right_inj _).mp upper
    have names : ∀ name ∈ back, IsFileName name := fun name member =>
      confined.valid name (down.subset member)
    have whole : (⟨directory.anchor, directory.parts ++ back⟩ : Path).IsNormal :=
      Path.isNormal_append normal fun name member => Path.isNormalPart_of_isFileName (names name member)
    have leads' := FileTree.locate_grow_directory leads grows
    have place_eq := FileTree.locate_place unlinked whole found
    have root_eq := FileTree.locate_place unlinked normal leads'
    have here : place = root ++ back := by
      rw [show place = _ from place_eq, show root = _ from root_eq, FileTree.placeOf,
        FileTree.placeOf]
      show writtenPlace _ (directory.parts ++ back) = writtenPlace _ directory.parts ++ back
      rw [writtenPlace_append]
      exact writtenPlace_of_down fun member => (names _ member).notAbove rfl
    refine ⟨back, ?_, down, here⟩
    rintro rfl
    rw [List.append_nil] at here
    subst here
    simp [FileTree.locate_entry sound leads] at free

theorem Delivery.isSound {outputs written : Outputs} (delivery : Delivery directory t outputs written t')
    (sound : t.IsSound) (unlinked : t.IsUnlinked) : t'.IsSound ∧ t'.IsUnlinked := by
  induction delivery with
  | all => exact ⟨sound, unlinked⟩
  | failed makes => exact makes.isSound sound unlinked
  | wrote makes write _ ih =>
    obtain ⟨sound, unlinked⟩ := makes.isSound sound unlinked
    obtain ⟨sound, unlinked⟩ := FileTree.write_isSound sound unlinked write
    exact ih sound unlinked

theorem Delivery.evolves {outputs written : Outputs} (delivery : Delivery directory t outputs written t')
    (sound : t.IsSound) (unlinked : t.IsUnlinked) (normal : directory.IsNormal)
    (leads : t.locate true directory.text = .ok (.found root .directory))
    (confined : ∀ o ∈ outputs, IsConfined o.path ∧
      ∃ last ∈ (split '/' o.path).getLast?, endsWith last compiledEnding = true) :
    Evolves root t t' := by
  have unlinked' := (delivery.isSound sound unlinked).2
  refine ⟨delivery.grows, fun place => ?_⟩
  rcases delivery.frame place with same | ⟨o, member, content, file, found⟩ |
    ⟨free, made, o, member, q, above, found⟩
  · exact .inl same
  · obtain ⟨below, ending⟩ := confined o (delivery.written_prefix.subset member)
    have leads' := FileTree.locate_grow_directory leads delivery.grows
    have here := below.place normal leads' (fun p target _ _ => unlinked'.get?_ne p target) found
    exact .inr ⟨_, below.nonempty, here, .inl ⟨content, file, ending⟩⟩
  · obtain ⟨back, some, -, here⟩ := place_of_made unlinked' normal leads sound delivery.grows
      (confined o member).1 above free found
    exact .inr ⟨back, some, here, .inr ⟨free, made⟩⟩

end

theorem endsWith_append (front ending : String) : endsWith (front ++ ending) ending = true :=
  endsWith_iff.mpr ⟨front, rfl⟩

theorem IsGenerated.ending {b : Backend} {unit : SourceUnit} {c : PluginClass} {m : Script.Module}
    {outputs : Outputs} (generated : IsGenerated b unit c m outputs) (sound : c.IsSound)
    {o : OutputFile} (member : o ∈ outputs) :
    ∃ last ∈ (split '/' o.path).getLast?, endsWith last compiledEnding = true := by
  rcases generated.path_cases sound member with path | ⟨depth, -, -, path⟩
  · rw [path, artifactNames_split sound]
    exact ⟨c.name ++ ".pyc", by simp [PluginClass.artifactNames], endsWith_append _ _⟩
  · rw [path, packageNames_split sound]
    exact ⟨"__init__.pyc", by simp [PluginClass.packageNames], by decide⟩

/-- A compilation makes the tree evolve, whatever comes of it. -/
theorem compile_evolves (b : Backend) (classpath : List Path) (template : Template)
    (source directory : Path) (w : Workspace) {root : Place} (sound : w.files.IsSound)
    (unlinked : w.files.IsUnlinked) (normal : directory.IsNormal)
    (leads : w.files.locate true directory.text = .ok (.found root .directory)) :
    let after := (finalState
      ((scriptCompiler b classpath template).compile source directory w)).files
    Evolves root w.files after ∧ after.IsSound ∧ after.IsUnlinked := by
  intro after
  obtain ⟨outputs, written, delivery, generated⟩ :=
    compile_delivery b classpath template source directory w
  refine ⟨delivery.evolves sound unlinked normal leads fun o member => ?_,
    delivery.isSound sound unlinked⟩
  rcases generated with rfl | ⟨unit, plugin, m, compiled⟩
  · exact nomatch member
  · exact ⟨compiled.generated.isConfined compiled.sound member,
      compiled.generated.ending compiled.sound member⟩

end PluginBuild
