import PluginBuild.Proofs.Confinement

/-!
What a compilation that succeeds has written: the file of the class, a file for each package above
it, and nothing else. The file of the class is always generated, since its path is worked out in the
same way when it is generated and when it is looked for.
-/

namespace PluginBuild

open PluginBuild.Files PluginBuild.Script PluginBuild.Text

/-- What a tree holds at and around a place after a class was compiled into it. -/
structure HoldsOutput (b : Backend) (unit : SourceUnit) (c : PluginClass) (m : Module)
    (directory : Path) (root : Place) (t t' : FileTree) : Prop where
  entry : t'.get? (root ++ c.artifactNames) = some (.file (Target.bytecode.magic ++
    Digest.toLittleEndian 4 1 ++ Digest.toLittleEndian 8 (sourceDigest unit.bytes).toNat ++
      b unit.path.text m))
  packages : ∀ depth, 0 < depth → depth ≤ (packageParts c.package).length →
    c.packageNames depth ≠ c.artifactNames →
      t'.get? (root ++ c.packageNames depth) = some (.file (Target.bytecode.magic ++
        Digest.toLittleEndian 4 1 ++ Digest.toLittleEndian 8 (sourceDigest []).toNat ++
          b (join "/" ((packageParts c.package).take depth) ++ "/__init__.py") ⟨[]⟩))
  others : ∀ place, place ≠ root ++ c.artifactNames →
    (∀ depth, 0 < depth → depth ≤ (packageParts c.package).length →
      place ≠ root ++ c.packageNames depth) →
    t'.get? place = t.get? place ∨ t.get? place = none ∧ t'.get? place = some .directory ∧
      ∃ q : Path, q.anchor = directory.anchor ∧
        q.parts <+: directory.parts ++ packageParts c.package ∧
        t'.locate true q.text = .ok (.found place .directory)

theorem IsGenerated.parent {b : Backend} {unit : SourceUnit} {c : PluginClass} {m : Module}
    {outputs : Outputs} (generated : IsGenerated b unit c m outputs) (sound : c.IsSound)
    (directory : Path) {o : OutputFile} (member : o ∈ outputs) :
    (directory.child o.path).parent.IsAtOrAbove
      ⟨directory.anchor, directory.parts ++ packageParts c.package⟩ := by
  have confined := generated.isConfined sound member
  rw [confined.child]
  refine ⟨rfl, ?_⟩
  show (directory.parts ++ split '/' o.path).dropLast <+: _
  rcases generated.path_cases sound member with path | ⟨depth, -, -, path⟩
  · have same : (directory.parts ++ split '/' o.path).dropLast =
        directory.parts ++ packageParts c.package := by
      rw [path, artifactNames_split sound, PluginClass.artifactNames, ← List.append_assoc,
        List.dropLast_concat]
    exact same ▸ List.prefix_rfl
  · rw [path, packageNames_split sound, PluginClass.packageNames, ← List.append_assoc,
      List.dropLast_concat]
    exact (List.prefix_append_right_inj _).mpr (List.take_prefix _ _)

theorem holdsOutput_of_delivery {b : Backend} {unit : SourceUnit} {c : PluginClass} {m : Module}
    {outputs : Outputs} {directory : Path} {root : Place} {t t' : FileTree}
    (generated : IsGenerated b unit c m outputs) (sound : c.IsSound) (normal : directory.IsNormal)
    (delivery : Delivery directory t outputs outputs t')
    (leads : t'.locate true directory.text = .ok (.found root .directory))
    (unlinked : ∀ p target, root <+: p → p ≠ root → t.get? p ≠ some (.link target)) :
    HoldsOutput b unit c m directory root t t' := by
  have unlinked' : ∀ p target, root <+: p → p ≠ root → t'.get? p ≠ some (.link target) :=
    fun p target below differ link => unlinked p target below differ (delivery.link_of_link link)
  -- Below the directory there are no links, so a path that leads somewhere leads where it says.
  have place_eq : ∀ o ∈ outputs, ∀ place x,
      t'.locate true (directory.child o.path).text = .ok (.found place x) →
        place = root ++ split '/' o.path := fun o member place x found =>
    (generated.isConfined sound member).place normal leads unlinked' found
  have content : ∀ o ∈ outputs, t'.get? (root ++ split '/' o.path) = some (.file o.content) := by
    intro o member
    obtain ⟨place, found, there⟩ := delivery.content_of_written generated.distinct (by
      intro o one o' two place content content' here here'
      have same := (place_eq o one _ _ here).symm.trans (place_eq o' two _ _ here')
      have cut := List.append_cancel_left same
      rw [← join_split Path.slash_single o.path, ← join_split Path.slash_single o'.path, cut]) member
    rwa [place_eq o member _ _ found] at there
  have entry : classFile b unit c m ∈ outputs := (generated.members _).mpr (.inl rfl)
  have entryPath : (classFile b unit c m).path = join "/" c.artifactNames := sound.artifactPath
  refine ⟨?_, ?_, ?_⟩
  · have there := content _ entry
    rwa [entryPath, artifactNames_split sound] at there
  · intro depth positive most differ
    have path := PluginClass.packageFile_path b positive most
    have member : packageFile b Target.bytecode (join "/" ((packageParts c.package).take depth)) ∈
        outputs := by
      refine (generated.members _).mpr (.inr ⟨⟨_, mem_packageDirectories.mpr
        ⟨depth, positive, most, rfl⟩, rfl⟩, fun same => differ ?_⟩)
      rw [← packageNames_split sound depth, ← artifactNames_split sound, ← path, same, entryPath]
    have there := content _ member
    rwa [path, packageNames_split sound] at there
  · intro place notEntry notPackage
    rcases delivery.frame place with same | ⟨o, member, now, -, found⟩ |
      ⟨free, made, o, member, q, above, found⟩
    · exact .inl same
    · have here := place_eq o member _ _ found
      rcases generated.path_cases sound member with path | ⟨depth, positive, most, path⟩
      · rw [path, artifactNames_split sound] at here
        exact absurd here notEntry
      · rw [path, packageNames_split sound] at here
        exact absurd here (notPackage depth positive most)
    · have upper := above.trans (generated.parent sound directory member)
      exact .inr ⟨free, made, q, upper.1, upper.2, found⟩

theorem compile_ok {b : Backend} {classpath : List Path} {template : Template}
    {source directory : Path} {compiled : Compiled} {w w' : Workspace} (normal : directory.IsNormal)
    (done : (scriptCompiler b classpath template).compile source directory w = .ok compiled w') :
    ∃ unit c m outputs, IsCompiled b template w.files source unit c m outputs ∧
      compiled = ⟨c.qualifiedName,
        directory.child (Target.bytecode.artifactPath c.qualifiedName)⟩ ∧
      ∃ root, w'.files.locate true directory.text = .ok (.found root .directory) ∧
        ((∀ p target, root <+: p → p ≠ root → w.files.get? p ≠ some (.link target)) →
          HoldsOutput b unit c m directory root w.files w'.files) := by
  rcases compile_cases b classpath template source directory w with
    ⟨e, w₁, failed, -, -⟩ | ⟨unit, c, m, outputs, w₁, last, known, same, keeps, ended⟩
  · exact nomatch failed.symm.trans done
  obtain ⟨written, delivery, all⟩ := delivery_of_forM directory outputs w₁
  cases wrote : outputs.forM (writeOutput directory) w₁ with
  | error e w₂ =>
    rw [wrote] at ended
    exact nomatch ended.symm.trans done
  | ok _ w₂ =>
    rw [wrote] at ended delivery
    rw [all w₂ wrote, same] at delivery
    obtain ⟨rfl, rfl⟩ := EStateM.Result.ok.inj (ended.symm.trans done)
    refine ⟨unit, c, m, outputs, known, rfl, ?_⟩
    have member := (known.generated.members (classFile b unit c m)).mpr (.inl rfl)
    have confined := known.generated.isConfined known.sound member
    rw [keeps w₂]
    obtain ⟨root, leads⟩ := delivery.root normal member confined
    exact ⟨root, leads, holdsOutput_of_delivery known.generated known.sound normal delivery leads⟩

theorem compile_error {b : Backend} {classpath : List Path} {template : Template}
    {source directory : Path} {e : Failure} {w w' : Workspace}
    (failed : (scriptCompiler b classpath template).compile source directory w = .error e w') :
    ¬ e.IsArtifactMissing := by
  rcases compile_cases b classpath template source directory w with
    ⟨e', w₁, failed', -, other⟩ | ⟨unit, c, m, outputs, w₁, last, known, same, keeps, ended⟩
  · obtain ⟨rfl, -⟩ := EStateM.Result.error.inj (failed.symm.trans failed')
    exact other
  · rw [ended] at failed
    split at failed
    · exact nomatch failed
    · rename_i wrote
      cases failed
      exact writeOutputs_error wrote

/-- A compilation never lacks the file of its class. Where it succeeds, its result and the files that
it leaves are those of the class that the bytes of the source declare: the directory leads to some
place, and if no link lies below that place, the files of the class and its packages stand there,
and beside them only directories came new. -/
theorem compile_holds_output (b : Backend) (classpath : List Path) (template : Template)
    (source : Path) (output : String) (w : Workspace) :
    let directory := Path.ofString output
    let ending := (scriptCompiler b classpath template).compile source directory w
    (∀ e w', ending = .error e w' → ¬ e.IsArtifactMissing) ∧
    ∀ compiled w', ending = .ok compiled w' → ∃ unit tree c m,
      w.files.read (w.files.absolute source).text = .ok unit.bytes ∧
      SourceUnit.ofBytes w.files.platform.codec? (w.files.absolute source)
        (template.isScript (w.files.absolute source).name) unit.bytes = .ok unit ∧
      unit.tree = .ok tree ∧ c = PluginClass.ofScript (w.files.absolute source) unit.tree ∧
      assemble tree c template = .ok m ∧
      compiled.qualifiedName = join "." (packageParts c.package ++ [c.name]) ∧
      compiled.artifact =
        ⟨directory.anchor, directory.parts ++ packageParts c.package ++ [c.name ++ ".pyc"]⟩ ∧
      ∃ root, w'.files.locate true directory.text = .ok (.found root .directory) ∧
        ((∀ p target, root <+: p → p ≠ root → w.files.get? p ≠ some (.link target)) →
          HoldsOutput b unit c m directory root w.files w'.files) := by
  intro directory ending
  refine ⟨fun e w' failed => compile_error failed, ?_⟩
  intro result w' done
  obtain ⟨unit, c, m, outputs, known, rfl, root, leads, holds⟩ :=
    compile_ok (Path.isNormal_ofString output) done
  obtain ⟨tree, parsed, assembled⟩ := known.assembled
  refine ⟨unit, tree, c, m, known.read, known.made, parsed,
    plugin_of_ofBytes known.made known.script, assembled, c.qualifiedName_eq_join, ?_, root, leads,
    holds⟩
  rw [known.sound.artifactPath, Path.child_join directory
    (by simp [PluginClass.artifactNames]) known.sound.artifactNames_valid, List.append_assoc]
  rfl

end PluginBuild
