import PluginBuild.Proofs.Environments
import PluginBuild.Proofs.Generation

/-!
One compilation, up to the point where files are written. Until then the files are only read. Where
it gets that far, the class and the generated files come from the bytes of the source.
-/

namespace PluginBuild

open PluginBuild.Files PluginBuild.Script PluginBuild.Text

def scriptCompiler (b : Backend) (classpath : List Path) (template : Template) : Compiler :=
  ⟨classpath, template, scriptToolchain b⟩

/-- What a source is read and compiled to: its unit, the class that it declares, the module that the
class becomes, and the generated files. -/
structure IsCompiled (b : Backend) (template : Template) (files : FileTree) (source : Path)
    (unit : SourceUnit) (c : PluginClass) (m : Module) (outputs : Outputs) : Prop where
  read : files.read (files.absolute source).text = .ok unit.bytes
  made : SourceUnit.ofBytes files.platform.codec? (files.absolute source)
    (template.isScript (files.absolute source).name) unit.bytes = .ok unit
  script : unit.plugin = some c
  sound : c.IsSound
  assembled : ∃ tree, unit.tree = .ok tree ∧ assemble tree c template = .ok m
  generated : IsGenerated b unit c m outputs

theorem isSound_ofScript (path : Path) {m : Module} (clean : declarationFaults false m.body = []) :
    (PluginClass.ofScript path (.ok m)).IsSound := by
  refine ⟨PluginClass.isPlain_nameOf path, ?_⟩
  cases declared : m.package? with
  | none => exact .inl (by simp [PluginClass.ofScript, declared])
  | some package =>
    have valid := isPackageName_of_package? clean declared
    rw [isPackageName, List.all_eq_true] at valid
    exact .inr (by simpa [PluginClass.ofScript, declared] using valid)

theorem plugin_of_ofBytes {codec? : String → Option Codec} {path : Path} {isScript : Bool} {bytes : Bytes}
    {unit : SourceUnit} {c : PluginClass} (made : SourceUnit.ofBytes codec? path isScript bytes = .ok unit)
    (script : unit.plugin = some c) : c = PluginClass.ofScript path unit.tree := by
  unfold SourceUnit.ofBytes at made
  split at made
  · exact nomatch made
  · split at made
    · exact nomatch made
    · cases made
      dsimp only at script ⊢
      split at script
      · exact (Option.some.inj script).symm
      · exact nomatch script

section
variable {b : Backend} {classpath : List Path} {template : Template} {source directory : Path}
  {w w' : Workspace}

theorem produce_ok {c : Compiler} {environment : Environment} {plugin : PluginClass}
    {outputs : Outputs} (done : c.produce source environment w = .ok (plugin, outputs) w') :
    c.toolchain environment w = .ok (some outputs) w' ∧
      environment.units.head?.bind (·.plugin) = some plugin := by
  obtain ⟨generated, w₁, ran, done⟩ := Build.bind_eq_ok done
  cases generated with
  | none => exact nomatch done
  | some outputs' =>
    obtain ⟨units, w₂, sources, done⟩ := Build.bind_eq_ok done
    obtain ⟨rfl, rfl⟩ : environment.units = units ∧ w₁ = w₂ := by
      rw [Environment.sources_run] at sources
      split at sources <;> cases sources
      exact ⟨rfl, rfl⟩
    cases script : environment.units.head?.bind (·.plugin) with
    | none =>
      simp only [script] at done
      exact nomatch done
    | some plugin' =>
      simp only [script] at done
      cases done
      exact ⟨ran, rfl⟩

theorem produce_reads (b : Backend) (classpath : List Path) (template : Template) (source : Path)
    (environment : Environment) :
    OnlyReads ((scriptCompiler b classpath template).produce source environment) := by
  refine .bind (scriptToolchain_reads b environment) fun generated => ?_
  split
  · exact .throw fun ⟨_, _, same⟩ => nomatch same
  · refine .bind (.sources environment) fun units => ?_
    split
    · exact .throw fun ⟨_, _, same⟩ => nomatch same
    · exact .pure _

theorem deliver_run {environment : Environment} {plugin : PluginClass} {outputs : Outputs}
    {o : OutputFile} {w₁ : Workspace} (c : Compiler)
    (produced : guarded source (c.produce source environment) w = .ok (plugin, outputs) w₁)
    (there : outputs.get? (Target.bytecode.artifactPath plugin.qualifiedName) = some o) :
    c.deliver source directory environment w =
      match outputs.forM (writeOutput directory) w₁ with
      | .ok _ w => .ok ⟨plugin.qualifiedName,
          directory.child (Target.bytecode.artifactPath plugin.qualifiedName)⟩ w
      | .error e w => .error e w := by
  have same : o.path = Target.bytecode.artifactPath plugin.qualifiedName := by
    simpa using List.find?_some there
  unfold Compiler.deliver
  rw [Build.bind_run, produced]
  simp only [there, Build.bind_run, same]
  cases outputs.forM (writeOutput directory) w₁ <;> rfl

/-- With the environment of one source, a compilation fails without a change to the files, or it comes
to the files that the script is compiled to and ends as writing them does. -/
theorem deliver_cases (b : Backend) (classpath : List Path) (template : Template)
    (source directory : Path) {environment : Environment} {unit : SourceUnit}
    (one : environment.units = [unit]) (retains : environment.configuration.retainsOutput = true)
    (w : Workspace) :
    (∃ e w', (scriptCompiler b classpath template).deliver source directory environment w =
      .error e w' ∧ w'.files = w.files ∧ ¬ e.IsArtifactMissing) ∨
    ∃ plugin tree m outputs w₁, unit.plugin = some plugin ∧ unit.tree = .ok tree ∧
      declarationFaults false tree.body = [] ∧
      assemble tree plugin environment.configuration.template = .ok m ∧
      IsGenerated b unit plugin m outputs ∧ w₁.files = w.files ∧
      (scriptCompiler b classpath template).deliver source directory environment w =
        match outputs.forM (writeOutput directory) w₁ with
        | .ok _ w => .ok ⟨plugin.qualifiedName,
            directory.child (Target.bytecode.artifactPath plugin.qualifiedName)⟩ w
        | .error e w => .error e w := by
  have reads := guarded_reads source (produce_reads b classpath template source environment)
  cases produced : guarded source
      ((scriptCompiler b classpath template).produce source environment) w with
  | error e w' =>
    refine .inl ⟨e, w', ?_, (reads.agrees_of_error produced).files, reads.failure _ _ _ produced⟩
    unfold Compiler.deliver
    rw [Build.bind_run, produced]
  | ok result w₁ =>
    obtain ⟨plugin, outputs⟩ := result
    obtain ⟨ran, script⟩ := produce_ok (guarded_ok produced)
    rw [one] at script
    obtain ⟨n, c, units, symbols⟩ := environment
    subst one
    obtain ⟨tree, m, parsed, clean, assembled, generated⟩ := scriptToolchain_ok retains script ran
    have member := (generated.members (classFile b unit plugin m)).mpr (.inl rfl)
    obtain ⟨o, there⟩ := Option.isSome_iff_exists.mp
      (Outputs.get?_isSome.mpr (List.mem_map.mpr ⟨_, member, rfl⟩))
    exact .inr ⟨plugin, tree, m, outputs, w₁, script, parsed, clean, assembled, generated,
      (reads.agrees_of_ok produced).files, deliver_run _ produced there⟩

theorem compile_cases (b : Backend) (classpath : List Path) (template : Template)
    (source directory : Path) (w : Workspace) :
    (∃ e w', (scriptCompiler b classpath template).compile source directory w = .error e w' ∧
      w'.files = w.files ∧ ¬ e.IsArtifactMissing) ∨
    ∃ unit plugin m outputs w₁, ∃ after : Workspace → Workspace,
      IsCompiled b template w.files source unit plugin m outputs ∧ w₁.files = w.files ∧
      (∀ w, (after w).files = w.files) ∧
      (scriptCompiler b classpath template).compile source directory w =
        match outputs.forM (writeOutput directory) w₁ with
        | .ok _ w₂ => .ok ⟨plugin.qualifiedName,
            directory.child (Target.bytecode.artifactPath plugin.qualifiedName)⟩ (after w₂)
        | .error e w₂ => .error e (after w₂) := by
  rw [Compiler.compile_eq]
  cases made : (scriptCompiler b classpath template).environmentIn source w with
  | error e => exact .inl ⟨e, begun source w, rfl, rfl, Compiler.not_isArtifactMissing_of_environmentIn made⟩
  | ok environment =>
    obtain ⟨root, unit, here, loaded, same⟩ := Compiler.environmentIn_eq_ok made
    obtain rfl := FileTree.absolute_of_absolute? here
    obtain ⟨read, made⟩ := unitAt_eq_ok.mp loaded
    have one : environment.units = [unit] := by rw [same]
    have retains : environment.configuration.retainsOutput = true := by
      rw [same]
      rfl
    have template' : environment.configuration.template = template := by
      rw [same]
      rfl
    dsimp only
    rcases deliver_cases b classpath template source directory one retains
        ((begun source w).opened environment.configuration) with
      ⟨e, w₂, failed, same, other⟩ |
      ⟨plugin, tree, m, outputs, w₂, script, parsed, clean, assembled, generated, same, ended⟩
    · rw [failed]
      exact .inl ⟨e, w₂.leave w.scope, rfl, (w₂.leave_files _).trans same, other⟩
    · have sound : plugin.IsSound := by
        rw [plugin_of_ofBytes made script, parsed]
        exact isSound_ofScript _ clean
      refine .inr ⟨unit, plugin, m, outputs, w₂, (·.leave w.scope),
        ⟨read, made, script, sound, ⟨tree, parsed, template' ▸ assembled⟩, generated⟩, same,
        fun w₂ => w₂.leave_files _, ?_⟩
      rw [ended]
      cases outputs.forM (writeOutput directory) w₂ <;> rfl

end

end PluginBuild
