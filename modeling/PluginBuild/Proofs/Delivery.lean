import PluginBuild.Proofs.Compilation

/-!
Writing the generated files, one after the other. The directories above a file are made first; the
first file that cannot be written ends it, and what was written before stays.
-/

namespace PluginBuild

open PluginBuild.Files PluginBuild.Text

/-- Generated files are written below a directory in their order, all of them or those before the
first that fails. The second list holds the files that were written. -/
inductive Delivery (directory : Path) : FileTree → Outputs → Outputs → FileTree → Prop
  | all (t : FileTree) : Delivery directory t [] [] t
  | failed {o : OutputFile} {rest : Outputs} {t t' : FileTree}
    (makes : MakesAbove (directory.child o.path).parent t t') :
    Delivery directory t (o :: rest) [] t'
  | wrote {o : OutputFile} {rest written : Outputs} {t t₁ t₂ t' : FileTree}
    (makes : MakesAbove (directory.child o.path).parent t t₁)
    (write : t₁.write (directory.child o.path).text o.content = .ok () t₂)
    (next : Delivery directory t₂ rest written t') :
    Delivery directory t (o :: rest) (o :: written) t'

theorem Build.change_run (request : FileTree → Change) (w : Workspace) :
    Build.change request w = match request w.files with
      | .ok _ files => .ok () { w with files }
      | .error e files => .error (.file e) { w with files } := by
  unfold Build.change
  cases request w.files <;> rfl

theorem writeOutput_cases (directory : Path) (o : OutputFile) (w : Workspace) :
    (∃ e w', writeOutput directory o w = .error (.file e) w' ∧
      MakesAbove (directory.child o.path).parent w.files w'.files) ∨
    ∃ w' t₁, writeOutput directory o w = .ok () w' ∧
      MakesAbove (directory.child o.path).parent w.files t₁ ∧
      t₁.write (directory.child o.path).text o.content = .ok () w'.files := by
  unfold writeOutput
  have makes := (w.files.ensurePath_spec (directory.child o.path).parent).1
  rw [Build.bind_run, Build.change_run]
  cases made : w.files.ensurePath (directory.child o.path).parent with
  | error e t₁ =>
    rw [made] at makes
    exact .inl ⟨_, _, rfl, makes⟩
  | ok _ t₁ =>
    rw [made] at makes
    dsimp only
    rw [Build.bind_run, Build.change_run]
    cases wrote : t₁.write (directory.child o.path).text o.content with
    | error e t₂ =>
      obtain rfl := (FileTree.write_error wrote).symm
      exact .inl ⟨_, _, rfl, makes⟩
    | ok _ t₂ => exact .inr ⟨_, t₁, rfl, makes, wrote⟩

theorem delivery_of_forM (directory : Path) (outputs : Outputs) (w : Workspace) :
    ∃ written, Delivery directory w.files outputs written
        (finalState (outputs.forM (writeOutput directory) w)).files ∧
      ∀ w', outputs.forM (writeOutput directory) w = .ok () w' → written = outputs := by
  induction outputs generalizing w with
  | nil => exact ⟨[], .all _, fun _ _ => rfl⟩
  | cons o rest ih =>
    rw [Build.forM_cons_run]
    rcases writeOutput_cases directory o w with ⟨e, w', failed, makes⟩ | ⟨w', t₁, done, makes, wrote⟩
    · rw [failed]
      exact ⟨[], .failed makes, fun _ done => nomatch done⟩
    · rw [done]
      obtain ⟨written, delivery, all⟩ := ih w'
      exact ⟨o :: written, .wrote makes wrote delivery, fun w'' ended => by rw [all w'' ended]⟩

theorem writeOutputs_error {directory : Path} {outputs : Outputs} {w w' : Workspace} {e : Failure}
    (failed : outputs.forM (writeOutput directory) w = .error e w') : ¬ e.IsArtifactMissing := by
  induction outputs generalizing w with
  | nil => exact nomatch failed
  | cons o rest ih =>
    rw [Build.forM_cons_run] at failed
    rcases writeOutput_cases directory o w with ⟨e', w₁, here, -⟩ | ⟨w₁, t₁, done, -, -⟩
    · rw [here] at failed
      cases failed
      rintro ⟨path, source, same⟩
      exact nomatch same
    · rw [done] at failed
      exact ih failed

namespace Delivery

variable {directory : Path} {outputs written : Outputs} {t t' : FileTree}

theorem grows (delivery : Delivery directory t outputs written t') : t.Grows t' := by
  induction delivery with
  | all => exact .refl _
  | failed makes => exact makes.grows
  | wrote makes write _ ih =>
    obtain ⟨d, -, sets, -⟩ := FileTree.write_ok write
    exact (makes.grows.trans sets.grows).trans ih

theorem written_prefix (delivery : Delivery directory t outputs written t') : written <+: outputs := by
  induction delivery with
  | all => exact List.prefix_rfl
  | failed => exact List.nil_prefix
  | wrote _ _ _ ih => exact List.cons_prefix_cons.mpr ⟨rfl, ih⟩

/-- Every place stays as it is, or one of the written files leads to it, or it was free and is now a
directory above one of the files. -/
theorem frame (delivery : Delivery directory t outputs written t') (place : Place) :
    t'.get? place = t.get? place ∨
    (∃ o ∈ written, ∃ content, t'.get? place = some (.file content) ∧
      t'.locate true (directory.child o.path).text = .ok (.found place (.file content))) ∨
    t.get? place = none ∧ t'.get? place = some .directory ∧ ∃ o ∈ outputs, ∃ q : Path,
      q.IsAtOrAbove (directory.child o.path).parent ∧
        t'.locate true q.text = .ok (.found place .directory) := by
  induction delivery with
  | all => exact .inl rfl
  | @failed o rest t t' makes =>
    rcases makes.frame place with same | ⟨lacking, made, q, above, leads⟩
    · exact .inl same
    · exact .inr (.inr ⟨lacking, made, o, List.mem_cons_self, q, above, leads⟩)
  | @wrote o rest written t t₁ t₂ t' makes write next ih =>
    obtain ⟨d, -, sets, leads⟩ := FileTree.write_ok write
    rcases ih with same | ⟨o', member, later⟩ | ⟨lacking, made, o', member, later⟩
    · by_cases here : place = d.place
      · subst here
        obtain ⟨now, leads', there⟩ := FileTree.locate_grow_file leads next.grows
        exact .inr (.inl ⟨o, List.mem_cons_self, now, there, leads'⟩)
      · rw [sets.get?_of_ne here] at same
        rcases makes.frame place with before | ⟨lacking, made, q, above, leads'⟩
        · exact .inl (same.trans before)
        · exact .inr (.inr ⟨lacking, same.trans made, o, List.mem_cons_self, q, above,
            FileTree.locate_grow_directory leads' (sets.grows.trans next.grows)⟩)
    · exact .inr (.inl ⟨o', List.mem_cons_of_mem o member, later⟩)
    · have free : t.get? place = none := by
        cases there : t.get? place with
        | none => rfl
        | some x =>
          obtain ⟨now, still, -⟩ := (makes.grows.trans sets.grows).keeps place x there
          simp [lacking] at still
      exact .inr (.inr ⟨free, made, o', List.mem_cons_of_mem o member, later⟩)

theorem file_cases (delivery : Delivery directory t outputs written t') {place : Place}
    {content : Bytes} (file : t'.get? place = some (.file content)) :
    t.get? place = some (.file content) ∨ ∃ o ∈ written,
      t'.locate true (directory.child o.path).text = .ok (.found place (.file content)) := by
  rcases delivery.frame place with same | ⟨o, member, now, there, leads⟩ | ⟨-, made, -⟩
  · exact .inl (same ▸ file)
  · rw [file] at there
    cases there
    exact .inr ⟨o, member, leads⟩
  · simp [made] at file

theorem link_of_link (delivery : Delivery directory t outputs written t') {place : Place}
    {target : String} (link : t'.get? place = some (.link target)) :
    t.get? place = some (.link target) := by
  rcases delivery.frame place with same | ⟨o, member, now, there, leads⟩ | ⟨-, made, -⟩
  · exact same ▸ link
  · simp [there] at link
  · simp [made] at link

theorem leads_of_written (delivery : Delivery directory t outputs written t') {o : OutputFile}
    (member : o ∈ written) : ∃ place content,
      t'.locate true (directory.child o.path).text = .ok (.found place (.file content)) := by
  induction delivery with
  | all | failed => exact nomatch member
  | wrote makes write next ih =>
    rcases List.mem_cons.mp member with rfl | later
    · obtain ⟨d, -, -, leads⟩ := FileTree.write_ok write
      obtain ⟨now, leads', -⟩ := FileTree.locate_grow_file leads next.grows
      exact ⟨d.place, now, leads'⟩
    · exact ih later

theorem content_of_written (delivery : Delivery directory t outputs written t')
    (distinct : written.IsDistinct)
    (apart : ∀ o ∈ written, ∀ o' ∈ written, ∀ place content content',
      t'.locate true (directory.child o.path).text = .ok (.found place (.file content)) →
      t'.locate true (directory.child o'.path).text = .ok (.found place (.file content')) →
        o.path = o'.path) {o : OutputFile} (member : o ∈ written) :
    ∃ place, t'.locate true (directory.child o.path).text =
      .ok (.found place (.file o.content)) ∧ t'.get? place = some (.file o.content) := by
  induction delivery with
  | all | failed => exact nomatch member
  | @wrote first rest written t t₁ t₂ t' makes write next ih =>
    obtain ⟨fresh, distinct⟩ := List.nodup_cons.mp distinct
    rcases List.mem_cons.mp member with rfl | later
    · obtain ⟨d, -, sets, leads⟩ := FileTree.write_ok write
      obtain ⟨now, leads', there⟩ := FileTree.locate_grow_file leads next.grows
      rcases next.file_cases there with before | ⟨o', member', other⟩
      · rw [sets.get?_self] at before
        cases before
        exact ⟨d.place, leads', there⟩
      · have same := apart o member o' (List.mem_cons_of_mem o member') _ _ _ leads' other
        exact absurd (List.mem_map.mpr ⟨o', member', same.symm⟩) fresh
    · refine ih distinct ?_ later
      intro o inside o' inside'
      exact apart o (List.mem_cons_of_mem first inside) o' (List.mem_cons_of_mem first inside')

end Delivery

/-- What a compilation does to the files, whatever comes of it: generated files of its source are
written, or none are generated. -/
theorem compile_delivery (b : Backend) (classpath : List Path) (template : Template)
    (source directory : Path) (w : Workspace) : ∃ outputs written,
      Delivery directory w.files outputs written (finalState
        ((scriptCompiler b classpath template).compile source directory w)).files ∧
      (outputs = [] ∨
        ∃ unit plugin m, IsCompiled b template w.files source unit plugin m outputs) := by
  rcases compile_cases b classpath template source directory w with
    ⟨e, w', failed, same, -⟩ |
    ⟨unit, plugin, m, outputs, w₁, last, compiled, same, keeps, ended⟩
  · rw [failed]
    refine ⟨[], [], ?_, .inl rfl⟩
    show Delivery directory w.files [] [] w'.files
    rw [same]
    exact .all _
  · obtain ⟨written, delivery, -⟩ := delivery_of_forM directory outputs w₁
    refine ⟨outputs, written, ?_, .inr ⟨unit, plugin, m, compiled⟩⟩
    rw [ended, ← same]
    cases wrote : outputs.forM (writeOutput directory) w₁ with
    | ok _ w₂ | error e w₂ =>
      rw [wrote] at delivery
      show Delivery directory w₁.files outputs written (last w₂).files
      rwa [keeps]

theorem Delivery.root {directory : Path} {outputs written : Outputs} {t t' : FileTree}
    (delivery : Delivery directory t outputs written t') (normal : directory.IsNormal)
    {o : OutputFile} (member : o ∈ written) (confined : IsConfined o.path) :
    ∃ root, t'.locate true directory.text = .ok (.found root .directory) := by
  obtain ⟨place, content, leads⟩ := delivery.leads_of_written member
  rw [confined.child] at leads
  have whole : (⟨directory.anchor, directory.parts ++ split '/' o.path⟩ : Path).IsNormal :=
    Path.isNormal_append normal confined.isNormalPart
  obtain ⟨root, -, first, -⟩ := FileTree.locate_split whole confined.nonempty leads
  exact ⟨root, first⟩

theorem IsConfined.place {directory : Path} {t : FileTree} {root place : Place} {x : Entry}
    {path : String} (confined : IsConfined path) (normal : directory.IsNormal)
    (leads : t.locate true directory.text = .ok (.found root .directory))
    (unlinked : ∀ p target, root <+: p → p ≠ root → t.get? p ≠ some (.link target))
    (found : t.locate true (directory.child path).text = .ok (.found place x)) :
    place = root ++ split '/' path := by
  have whole : (⟨directory.anchor, directory.parts ++ split '/' path⟩ : Path).IsNormal :=
    Path.isNormal_append normal confined.isNormalPart
  rw [confined.child] at found
  obtain ⟨middle, fewer, first, second⟩ := FileTree.locate_split whole confined.nonempty found
  obtain ⟨rfl, -⟩ := Destination.found.inj (Except.ok.inj (first.symm.trans leads))
  have down : ".." ∉ split '/' path := fun member => (confined.valid _ member).notAbove rfl
  exact second.place_of_unlinked unlinked List.prefix_rfl down

end PluginBuild
