import PluginBuild.Proofs.Delivery

/-!
No script makes the compiler write outside the output directory. What the declared package is worth
is decided by the check of declarations; that check passes over the same statements as the reading
of the package, and it lets only identifiers through.
-/

namespace PluginBuild

open PluginBuild.Files PluginBuild.Script PluginBuild.Text

theorem IsGenerated.path_cases {b : Backend} {unit : SourceUnit} {c : PluginClass} {m : Module}
    {outputs : Outputs} (generated : IsGenerated b unit c m outputs) (sound : c.IsSound)
    {o : OutputFile} (member : o ∈ outputs) : o.path = join "/" c.artifactNames ∨
      ∃ depth, 0 < depth ∧ depth ≤ (packageParts c.package).length ∧
        o.path = join "/" (c.packageNames depth) := by
  rcases (generated.members o).mp member with rfl | ⟨⟨directory, listed, rfl⟩, -⟩
  · exact .inl sound.artifactPath
  · obtain ⟨depth, positive, most, rfl⟩ := mem_packageDirectories.mp listed
    exact .inr ⟨depth, positive, most, PluginClass.packageFile_path b positive most⟩

theorem IsGenerated.isConfined {b : Backend} {unit : SourceUnit} {c : PluginClass} {m : Module}
    {outputs : Outputs} (generated : IsGenerated b unit c m outputs) (sound : c.IsSound)
    {o : OutputFile} (member : o ∈ outputs) : IsConfined o.path := by
  rcases generated.path_cases sound member with path | ⟨depth, -, -, path⟩
  · rw [path]
    exact (isConfined_join (by simp [PluginClass.artifactNames]) sound.artifactNames_valid).1
  · rw [path]
    exact (isConfined_join (by simp [PluginClass.packageNames])
      (sound.packageNames_valid depth)).1

/-- Whatever comes of a compilation, what it has changed are files below the directory and the
directories above them. The path of each file is relative and has a name at least; every name on it
is one that an entry of a directory can have, so that it goes down at each step. -/
theorem compile_stays_below_directory (b : Backend) (classpath : List Path) (template : Template)
    (source directory : Path) (w : Workspace) :
    let after := (finalState
      ((scriptCompiler b classpath template).compile source directory w)).files
    ∃ outputs written : Outputs, Delivery directory w.files outputs written after ∧
      written <+: outputs ∧
      (∀ o ∈ outputs, IsConfined o.path ∧
        directory.child o.path = ⟨directory.anchor, directory.parts ++ split '/' o.path⟩) ∧
      ∀ place content, after.get? place = some (.file content) →
        w.files.get? place = some (.file content) ∨ ∃ o ∈ written,
          after.locate true (directory.child o.path).text = .ok (.found place (.file content)) := by
  intro after
  obtain ⟨outputs, written, delivery, generated⟩ :=
    compile_delivery b classpath template source directory w
  refine ⟨outputs, written, delivery, delivery.written_prefix, ?_, ?_⟩
  · intro o member
    rcases generated with rfl | ⟨unit, plugin, m, compiled⟩
    · exact nomatch member
    · have confined := compiled.generated.isConfined compiled.sound member
      exact ⟨confined, confined.child directory⟩
  · intro place content file
    exact delivery.file_cases file

end PluginBuild
