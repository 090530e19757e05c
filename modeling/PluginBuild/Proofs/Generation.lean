import PluginBuild.Proofs.Artifacts
import PluginBuild.Proofs.Checking

/-!
What the toolchain generates for one source. No two files have one path; the file of the class is
among them, and the other files are those of the packages it lies in.
-/

namespace PluginBuild

open PluginBuild.Files PluginBuild.Script PluginBuild.Text

namespace Outputs

def IsDistinct (outputs : Outputs) : Prop := (outputs.map (·.path)).Nodup

variable {outputs : Outputs} {o other : OutputFile}

theorem path_mem_add (o : OutputFile) (outputs : Outputs) (path : String) :
    path ∈ (outputs.add o).map (·.path) ↔ path = o.path ∨ path ∈ outputs.map (·.path) := by
  induction outputs with
  | nil => simp [add]
  | cons first rest ih =>
    unfold add
    split
    · rename_i same
      simp [same]
    · simp only [List.map_cons, List.mem_cons, ih]
      exact or_left_comm

theorem IsDistinct.add (distinct : outputs.IsDistinct) (o : OutputFile) :
    (outputs.add o).IsDistinct := by
  induction outputs with
  | nil => simp [Outputs.add, IsDistinct]
  | cons first rest ih =>
    obtain ⟨fresh, distinct⟩ := List.nodup_cons.mp distinct
    unfold Outputs.add
    split
    · rename_i same
      rw [IsDistinct, List.map_cons, ← same]
      exact List.nodup_cons.mpr ⟨fresh, distinct⟩
    · rename_i differ
      refine List.nodup_cons.mpr ⟨?_, ih distinct⟩
      intro member
      rcases (path_mem_add o rest first.path).mp member with same | inside
      · exact differ same
      · exact fresh inside

theorem mem_add (distinct : outputs.IsDistinct) :
    other ∈ outputs.add o ↔ other = o ∨ other ∈ outputs ∧ other.path ≠ o.path := by
  induction outputs with
  | nil => simp [add]
  | cons first rest ih =>
    obtain ⟨fresh, distinct⟩ := List.nodup_cons.mp distinct
    unfold add
    split
    · rename_i same
      have others : other ∈ rest → other.path ≠ o.path := by
        intro member at_
        exact fresh (List.mem_map.mpr ⟨other, member, at_.trans same.symm⟩)
      constructor
      · intro member
        rcases List.mem_cons.mp member with rfl | later
        · exact .inl rfl
        · exact .inr ⟨List.mem_cons_of_mem first later, others later⟩
      · rintro (rfl | ⟨member, differ⟩)
        · exact List.mem_cons_self
        · rcases List.mem_cons.mp member with rfl | later
          · exact absurd same differ
          · exact List.mem_cons_of_mem o later
    · rename_i differ
      simp only [List.mem_cons, ih distinct]
      constructor
      · rintro (rfl | rfl | ⟨later, apart⟩)
        · exact .inr ⟨.inl rfl, differ⟩
        · exact .inl rfl
        · exact .inr ⟨.inr later, apart⟩
      · rintro (rfl | ⟨rfl | later, apart⟩)
        · exact .inr (.inl rfl)
        · exact .inl rfl
        · exact .inr (.inr ⟨later, apart⟩)

theorem get?_isSome {path : String} :
    (outputs.get? path).isSome = true ↔ path ∈ outputs.map (·.path) := by
  unfold get?
  rw [List.find?_isSome]
  simp

end Outputs

section
variable (b : Backend) (t : Target)

theorem packageFile_injective {directory other : String}
    (same : (packageFile b t directory).path = (packageFile b t other).path) : directory = other := by
  have chars := congrArg String.toList same
  simp only [packageFile, String.toList_append, List.append_assoc] at chars
  exact String.toList_inj.mp (List.append_cancel_right chars)

/-- Added packages come behind what is there, and no path is added twice. -/
theorem addPackages_spec (directories : List String) {outputs : Outputs}
    (distinct : outputs.IsDistinct) (packages : ∀ o ∈ outputs, ∃ d, o = packageFile b t d) :
    (addPackages b t directories outputs).IsDistinct ∧
      ∀ o, o ∈ addPackages b t directories outputs ↔
        o ∈ outputs ∨ ∃ d ∈ directories, o = packageFile b t d := by
  induction directories generalizing outputs with
  | nil => simp [addPackages, distinct]
  | cons directory rest ih =>
    rw [addPackages, List.foldl_cons]
    -- A package file that is there already is this one, since packages with one path are one package.
    by_cases there : (outputs.get? (packageFile b t directory).path).isSome = true
    · rw [if_pos there]
      obtain ⟨again, members⟩ := ih distinct packages
      refine ⟨again, fun o => ?_⟩
      have inside : packageFile b t directory ∈ outputs := by
        obtain ⟨o, member, path⟩ := List.mem_map.mp (Outputs.get?_isSome.mp there)
        obtain ⟨d, rfl⟩ := packages o member
        rwa [packageFile_injective b t path] at member
      rw [← addPackages, members]
      constructor
      · rintro (old | ⟨d, member, rfl⟩)
        · exact .inl old
        · exact .inr ⟨d, List.mem_cons_of_mem directory member, rfl⟩
      · rintro (old | ⟨d, member, rfl⟩)
        · exact .inl old
        · rcases List.mem_cons.mp member with rfl | later
          · exact .inl inside
          · exact .inr ⟨d, later, rfl⟩
    · rw [if_neg there]
      have kept : ∀ o, o ∈ outputs.add (packageFile b t directory) ↔
          o = packageFile b t directory ∨ o ∈ outputs := by
        intro o
        rw [Outputs.mem_add distinct]
        have apart : o ∈ outputs → o.path ≠ (packageFile b t directory).path := fun member same =>
          there (Outputs.get?_isSome.mpr (List.mem_map.mpr ⟨o, member, same⟩))
        exact or_congr Iff.rfl ⟨And.left, fun member => ⟨member, apart member⟩⟩
      obtain ⟨again, members⟩ := ih (distinct.add (packageFile b t directory)) (by
        intro o member
        rcases (kept o).mp member with rfl | old
        · exact ⟨directory, rfl⟩
        · exact packages o old)
      refine ⟨again, fun o => ?_⟩
      rw [← addPackages, members, kept]
      constructor
      · rintro ((rfl | old) | ⟨d, member, rfl⟩)
        · exact .inr ⟨directory, List.mem_cons_self, rfl⟩
        · exact .inl old
        · exact .inr ⟨d, List.mem_cons_of_mem directory member, rfl⟩
      · rintro (old | ⟨d, member, rfl⟩)
        · exact .inl (.inr old)
        · rcases List.mem_cons.mp member with rfl | later
          · exact .inl (.inl rfl)
          · exact .inr ⟨d, later, rfl⟩

end

theorem mem_packageDirectories {package directory : String} :
    directory ∈ packageDirectories package ↔
      ∃ depth, 0 < depth ∧ depth ≤ (packageParts package).length ∧
        directory = join "/" ((packageParts package).take depth) := by
  unfold packageDirectories packageParts
  split
  · simp only [List.not_mem_nil, List.length_nil, false_iff]
    rintro ⟨depth, positive, none, -⟩
    omega
  · constructor
    · intro member
      obtain ⟨depth, less, rfl⟩ := List.mem_map.mp member
      exact ⟨depth + 1, Nat.succ_pos depth, List.mem_range.mp less, rfl⟩
    · rintro ⟨depth, positive, most, rfl⟩
      refine List.mem_map.mpr ⟨depth - 1, List.mem_range.mpr (by omega), ?_⟩
      rw [Nat.sub_add_cancel positive]

theorem PluginClass.packageFile_path (b : Backend) {c : PluginClass} {depth : Nat}
    (positive : 0 < depth) (most : depth ≤ (packageParts c.package).length) :
    (packageFile b Target.bytecode (join "/" ((packageParts c.package).take depth))).path =
      join "/" (c.packageNames depth) := by
  have nonempty : (packageParts c.package).take depth ≠ [] := by
    intro empty
    have length := congrArg List.length empty
    simp only [List.length_take, List.length_nil] at length
    omega
  rw [packageNames, join_concat _ nonempty, String.append_assoc]
  simp only [packageFile, String.append_assoc]
  rfl

/-- The file of a class: behind the header for the source stands the code of its module. -/
def classFile (b : Backend) (unit : SourceUnit) (c : PluginClass) (m : Module) : OutputFile :=
  ⟨Target.bytecode.artifactPath c.qualifiedName,
    compiledFile Target.bytecode unit.bytes (b unit.path.text m)⟩

/-- The generated files of a script: no path twice, the file of the class, and those of its packages
at all other paths. -/
structure IsGenerated (b : Backend) (unit : SourceUnit) (c : PluginClass) (m : Module)
    (outputs : Outputs) : Prop where
  distinct : outputs.IsDistinct
  members : ∀ o, o ∈ outputs ↔ o = classFile b unit c m ∨
    (∃ directory ∈ packageDirectories c.package, o = packageFile b Target.bytecode directory) ∧
      o.path ≠ (classFile b unit c m).path

def scriptFiles (b : Backend) (unit : SourceUnit) (c : PluginClass) (m : Module) : Outputs :=
  (addPackages b Target.bytecode (packageDirectories c.package) []).add (classFile b unit c m)

theorem isGenerated_scriptFiles (b : Backend) (unit : SourceUnit) (c : PluginClass) (m : Module) :
    IsGenerated b unit c m (scriptFiles b unit c m) := by
  have empty : Outputs.IsDistinct [] := List.nodup_nil
  obtain ⟨distinct, members⟩ :=
    addPackages_spec b Target.bytecode (packageDirectories c.package) empty (by simp)
  refine ⟨distinct.add _, fun o => ?_⟩
  rw [scriptFiles, Outputs.mem_add distinct, members]
  simp

theorem checkCode_reads (s : Subject) (fileName : String) (m : Module) :
    OnlyReads (checkCode s fileName m) := by
  unfold checkCode
  split
  · exact .throw fun ⟨_, _, same⟩ => nomatch same
  · exact .forM fun w => .deliver _ _

theorem generate_reads (b : Backend) (t : Target) (s : Subject) (outputs : Outputs) :
    OnlyReads (generate b t s outputs) := by
  unfold generate
  dsimp only
  split
  · exact .bind (checkCode_reads _ _ _) fun _ => .pure _
  · split
    · exact .throw fun ⟨_, _, same⟩ => nomatch same
    · exact .throw fun ⟨_, _, same⟩ => nomatch same
    · exact .bind (checkCode_reads _ _ _) fun _ => .pure _

theorem isGenerated_of_generate {b : Backend} {s : Subject} {c : PluginClass} {outputs : Outputs}
    {w w' : Workspace} (script : s.unit.plugin = some c)
    (done : generate b Target.bytecode s [] w = .ok outputs w') :
    ∃ m, assemble s.tree c s.configuration.template = .ok m ∧
      IsGenerated b s.unit c m outputs := by
  unfold generate at done
  simp only [script] at done
  cases assembled : assemble s.tree c s.configuration.template with
  | error e =>
    rw [assembled] at done
    cases e <;> exact nomatch done
  | ok m =>
    rw [assembled] at done
    obtain ⟨_, w₁, -, same⟩ := Build.bind_eq_ok done
    cases same
    exact ⟨m, rfl, isGenerated_scriptFiles b s.unit c m⟩

theorem analyzeAll_reads (c : Configuration) (symbols : SymbolIndex) (units : List SourceUnit) :
    OnlyReads (analyzeAll c symbols units) := by
  induction units generalizing symbols with
  | nil => exact .pure _
  | cons unit rest ih =>
    refine .bind (analyze_reads c unit symbols) fun (errors, symbols) => ?_
    refine .bind (ih symbols) fun (analysed, failed) => ?_
    dsimp only
    split <;> exact .pure _

theorem generateAll_reads (b : Backend) (t : Target) (subjects : List Subject) (outputs : Outputs) :
    OnlyReads (generateAll b t subjects outputs) := by
  induction subjects generalizing outputs with
  | nil => exact .pure _
  | cons s rest ih => exact .bind (generate_reads b t s outputs) fun outputs => ih outputs

theorem scriptToolchain_reads (b : Backend) (environment : Environment) :
    OnlyReads (scriptToolchain b environment) := by
  have other : ∀ e, ¬ (Failure.toolchain e).IsArtifactMissing := by
    rintro e ⟨path, source, same⟩
    cases same
  unfold scriptToolchain
  dsimp only
  split
  · exact .throwFirst (other _) _
  · refine .bind (.sources environment) fun units => .bind (analyzeAll_reads _ _ _) ?_
    rintro ⟨analysed, failed⟩
    dsimp only
    split
    · exact .bind (.record _ _) fun _ => .pure _
    · exact .bind (generateAll_reads _ _ _ _) fun outputs => .bind (.record _ _) fun _ => .pure _

theorem scriptToolchain_ok {b : Backend} {n : Nat} {c : Configuration} {unit : SourceUnit}
    {symbols : SymbolIndex} {outputs : Outputs} {w w' : Workspace} {plugin : PluginClass}
    (retains : c.retainsOutput = true) (script : unit.plugin = some plugin)
    (done : scriptToolchain b ⟨n, c, [unit], symbols⟩ w = .ok (some outputs) w') :
    ∃ tree m, unit.tree = .ok tree ∧ declarationFaults false tree.body = [] ∧
      assemble tree plugin c.template = .ok m ∧ IsGenerated b unit plugin m outputs := by
  unfold scriptToolchain at done
  simp only [retains, Bool.not_true, Bool.false_eq_true, if_false] at done
  obtain ⟨units, w₀, sources, done⟩ := Build.bind_eq_ok done
  obtain rfl : [unit] = units := by
    rw [Environment.sources_run] at sources
    split at sources <;> cases sources
    rfl
  obtain ⟨⟨analysed, failed⟩, w₁, analysis, done⟩ := Build.bind_eq_ok done
  obtain ⟨⟨errors, symbols'⟩, w₂, checked, analysis⟩ := Build.bind_eq_ok analysis
  obtain ⟨_, w₃, rest, analysis⟩ := Build.bind_eq_ok analysis
  cases rest
  cases failed with
  | true =>
    obtain ⟨_, _, -, same⟩ := Build.bind_eq_ok done
    exact nomatch same
  -- Without counted errors the unit has a tree, and the files are made from it.
  | false =>
    cases parsed : unit.tree with
    | error report =>
      rw [parsed] at analysis
      match errors with
      | none | some 0 | some (_ + 1) => exact nomatch analysis
    | ok tree =>
      rw [parsed] at analysis
      obtain ⟨rfl, rfl⟩ : errors = some 0 ∧ analysed = [⟨c, unit, tree⟩] := by
        match errors with
        | none | some (_ + 1) => exact nomatch analysis
        | some 0 =>
          cases analysis
          exact ⟨rfl, rfl⟩
      obtain ⟨tree', parsed', clean⟩ := declarationFaults_of_analyze checked
      obtain rfl : tree' = tree := Except.ok.inj (parsed'.symm.trans parsed)
      obtain ⟨made, w₄, generated, same⟩ := Build.bind_eq_ok done
      obtain ⟨_, w₅, recorded, same⟩ := Build.bind_eq_ok same
      cases same
      obtain ⟨once, w₆, generated, same⟩ := Build.bind_eq_ok generated
      cases same
      obtain ⟨m, assembled, isGenerated⟩ := isGenerated_of_generate script generated
      exact ⟨tree', m, rfl, clean, assembled, isGenerated⟩

end PluginBuild
