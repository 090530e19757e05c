import PluginBuild.Proofs.Batches
import PluginBuild.Proofs.ExactOutput

/-!
When the scripts of a batch keep out of each other's way. Names of classes come from names of files
and from packages, and two scripts may come to the same name; a class may also be what makes the
package of another one, and the manifest may be written over a class. Nothing of this is refused, and
what is written last stays.
-/

namespace PluginBuild

open PluginBuild.Files PluginBuild.Text

def digestBytes (source : Bytes) : Bytes := Digest.toLittleEndian 8 (sourceDigest source).toNat

/-- The bytes of a file that stand for its source, if it is a compiled one. -/
def statedDigest (content : Bytes) : Bytes := (content.drop 8).take 8

theorem length_toLittleEndian (count n : Nat) : (Digest.toLittleEndian count n).length = count := by
  induction count generalizing n with
  | zero => rfl
  | succ count ih => rw [Digest.toLittleEndian, List.length_cons, ih]

theorem statedDigest_compiled (source code : Bytes) :
    statedDigest (Target.bytecode.magic ++ Digest.toLittleEndian 4 1 ++ digestBytes source ++ code) =
      digestBytes source := by
  have front : (Target.bytecode.magic ++ Digest.toLittleEndian 4 1).length = 8 := rfl
  have length : (digestBytes source).length = 8 := length_toLittleEndian 8 _
  rw [statedDigest, List.append_assoc, ← front, List.drop_left, front, ← length, List.take_left]

/-- A place holds the file of a class that was compiled from these bytes. -/
def HoldsClass (t : FileTree) (place : Place) (source : Bytes) : Prop :=
  ∃ content, t.get? place = some (.file content) ∧ statedDigest content = digestBytes source

namespace PluginClass

def IsPackageOf (c d : PluginClass) : Prop :=
  c.name = "__init__" ∧ packageParts c.package ≠ [] ∧
    packageParts c.package <+: packageParts d.package

instance (c d : PluginClass) : Decidable (c.IsPackageOf d) :=
  inferInstanceAs (Decidable (_ ∧ _ ∧ _))

variable {c d : PluginClass}

theorem isPackageOf_iff : c.IsPackageOf d ↔ ∃ depth, 0 < depth ∧
    depth ≤ (packageParts d.package).length ∧ c.artifactNames = d.packageNames depth := by
  constructor
  · rintro ⟨name, inside, front⟩
    refine ⟨(packageParts c.package).length, List.length_pos_of_ne_nil inside, front.length_le, ?_⟩
    rw [artifactNames, packageNames, name, ← List.prefix_iff_eq_take.mp front]
    rfl
  · rintro ⟨depth, positive, most, same⟩
    obtain ⟨parts, -⟩ := List.append_inj' same rfl
    refine ⟨name_of_artifactNames same, ?_, ?_⟩
    · rw [parts]
      intro none
      have length := congrArg List.length none
      rw [List.length_take, Nat.min_eq_left most] at length
      exact Nat.ne_of_gt positive length
    · rw [parts]
      exact List.take_prefix _ _

end PluginClass

/-- A script as a batch compiles it: its path, its bytes, and the class that they declare. -/
structure ScriptClass where
  source : Path
  bytes : Bytes
  plugin : PluginClass

/-- Scripts are compiled one after the other, each in the files that those before it left; the bytes
and the class of each are those that it had then. -/
inductive CompilesScripts (c : Compiler) (output : Path) :
    FileTree → List ScriptClass → List Compiled → FileTree → Prop
  | nil (t : FileTree) : CompilesScripts c output t [] [] t
  | cons {x : ScriptClass} {rest : List ScriptClass} {compiled : Compiled} {results : List Compiled}
    {unit : SourceUnit} {w w₁ : Workspace} {t' : FileTree}
    (read : w.files.read (w.files.absolute x.source).text = .ok x.bytes)
    (made : SourceUnit.ofBytes w.files.platform.codec? (w.files.absolute x.source)
      (c.template.isScript (w.files.absolute x.source).name) x.bytes = .ok unit)
    (declared : x.plugin = PluginClass.ofScript (w.files.absolute x.source) unit.tree)
    (first : c.compile x.source output w = .ok compiled w₁)
    (next : CompilesScripts c output w₁.files rest results t') :
    CompilesScripts c output w.files (x :: rest) (compiled :: results) t'

section
variable {b : Backend} {classpath : List Path} {template : Template} {output : Path} {root : Place}
  {start t t' : FileTree} {sources : List Path} {scripts : List ScriptClass}
  {results : List Compiled}

theorem CompilesAll.compilesScripts (normal : output.IsNormal)
    (compiles : CompilesAll (scriptCompiler b classpath template) output t sources results t') :
    ∃ scripts, CompilesScripts (scriptCompiler b classpath template) output t scripts results t' ∧
      scripts.map (·.source) = sources := by
  induction compiles with
  | nil => exact ⟨[], .nil _, rfl⟩
  | @cons source rest compiled results w w₁ t' first next ih =>
    obtain ⟨scripts, later, same⟩ := ih
    obtain ⟨unit, c, m, outputs, known, -⟩ := compile_ok normal first
    refine ⟨⟨source, unit.bytes, c⟩ :: scripts, .cons known.read known.made ?_ first later, ?_⟩
    · exact plugin_of_ofBytes known.made known.script
    · rw [List.map_cons, same]

theorem compile_holds {x : ScriptClass} {compiled : Compiled} {unit : SourceUnit} {w w₁ : Workspace}
    (normal : output.IsNormal) (leads : start.locate true output.text = .ok (.found root .directory))
    (before : IsEvolved root start w.files)
    (read : w.files.read (w.files.absolute x.source).text = .ok x.bytes)
    (made : SourceUnit.ofBytes w.files.platform.codec? (w.files.absolute x.source)
      (template.isScript (w.files.absolute x.source).name) x.bytes = .ok unit)
    (declared : x.plugin = PluginClass.ofScript (w.files.absolute x.source) unit.tree)
    (first : (scriptCompiler b classpath template).compile x.source output w = .ok compiled w₁) :
    compiled.qualifiedName = x.plugin.qualifiedName ∧ x.plugin.IsSound ∧ ∃ m unit,
      unit.bytes = x.bytes ∧ HoldsOutput b unit x.plugin m output root w.files w₁.files := by
  obtain ⟨unit', c, m, outputs, known, rfl, root', leads', holds⟩ := compile_ok normal first
  have bytes : unit'.bytes = x.bytes := Except.ok.inj (known.read.symm.trans read)
  have same : unit' = unit := Except.ok.inj ((bytes ▸ known.made).symm.trans made)
  have plugin : c = x.plugin := by
    rw [declared, ← same]
    exact plugin_of_ofBytes known.made known.script
  have after := compile_evolved normal leads before first
  have later := FileTree.locate_grow_directory leads (before.trans after).evolves.grows
  obtain ⟨rfl, -⟩ := Destination.found.inj (Except.ok.inj (leads'.symm.trans later))
  subst plugin
  exact ⟨rfl, known.sound, m, unit', bytes, holds fun p target _ _ => before.unlinked.get?_ne p target⟩

/-- The file of a class after another class was compiled: it stands for no source if it now makes a
package of that class one, and otherwise for what it stood for. -/
theorem HoldsOutput.keeps {unit : SourceUnit} {c x : PluginClass} {m : Script.Module}
    {content : Bytes} (holds : HoldsOutput b unit c m output root t t')
    (differ : x.artifactNames ≠ c.artifactNames)
    (there : t.get? (root ++ x.artifactNames) = some (.file content)) :
    ∃ now, t'.get? (root ++ x.artifactNames) = some (.file now) ∧
      statedDigest now = if x.IsPackageOf c then digestBytes [] else statedDigest content := by
  by_cases makes : x.IsPackageOf c
  · obtain ⟨depth, positive, most, same⟩ := PluginClass.isPackageOf_iff.mp makes
    refine ⟨_, same ▸ holds.packages depth positive most (same ▸ differ), ?_⟩
    rw [if_pos makes]
    exact statedDigest_compiled [] _
  · rw [if_neg makes]
    refine ⟨content, ?_, rfl⟩
    rcases holds.others (root ++ x.artifactNames) (fun same => differ (List.append_cancel_left same))
      (fun depth positive most same => makes (PluginClass.isPackageOf_iff.mpr
        ⟨depth, positive, most, List.append_cancel_left same⟩)) with same | ⟨free, -⟩
    · exact same.trans there
    · simp [free] at there

theorem HoldsOutput.entry_digest {unit : SourceUnit} {c : PluginClass} {m : Script.Module}
    (holds : HoldsOutput b unit c m output root t t') :
    ∃ now, t'.get? (root ++ c.artifactNames) = some (.file now) ∧
      statedDigest now = digestBytes unit.bytes :=
  ⟨_, holds.entry, statedDigest_compiled _ _⟩

theorem CompilesScripts.keeps {x : PluginClass} {content : Bytes}
    (compiles : CompilesScripts (scriptCompiler b classpath template) output t scripts results t')
    (normal : output.IsNormal) (leads : start.locate true output.text = .ok (.found root .directory))
    (before : IsEvolved root start t)
    (differ : ∀ y ∈ scripts, x.artifactNames ≠ y.plugin.artifactNames)
    (there : t.get? (root ++ x.artifactNames) = some (.file content)) :
    ∃ now, t'.get? (root ++ x.artifactNames) = some (.file now) ∧ statedDigest now =
      if ∃ y ∈ scripts, x.IsPackageOf y.plugin then digestBytes [] else statedDigest content := by
  induction compiles generalizing content with
  | nil => exact ⟨content, there, by simp⟩
  | @cons y rest compiled results unit w w₁ t' read made declared first next ih =>
    obtain ⟨-, -, m, unit', -, holds⟩ := compile_holds normal leads before read made declared first
    obtain ⟨now, there₁, stated₁⟩ := holds.keeps (differ y List.mem_cons_self) there
    obtain ⟨last, there₂, stated₂⟩ := ih (before.trans (compile_evolved normal leads before first))
      (fun z member => differ z (List.mem_cons_of_mem y member)) there₁
    refine ⟨last, there₂, ?_⟩
    rw [stated₂, stated₁]
    by_cases here : x.IsPackageOf y.plugin
    · simp [here]
    · simp [here]

theorem CompilesScripts.names
    (compiles : CompilesScripts (scriptCompiler b classpath template) output t scripts results t')
    (normal : output.IsNormal) (leads : start.locate true output.text = .ok (.found root .directory))
    (before : IsEvolved root start t) :
    manifest results = scripts.map (·.plugin.qualifiedName) ∧ ∀ x ∈ scripts, x.plugin.IsSound := by
  induction compiles with
  | nil => exact ⟨rfl, fun _ member => nomatch member⟩
  | @cons x rest compiled results unit w w₁ t' read made declared first next ih =>
    obtain ⟨name, sound, -⟩ := compile_holds normal leads before read made declared first
    obtain ⟨names, sounds⟩ := ih (before.trans (compile_evolved normal leads before first))
    refine ⟨?_, ?_⟩
    · rw [List.map_cons, ← names, ← name]
      rfl
    · intro y member
      rcases List.mem_cons.mp member with rfl | later
      · exact sound
      · exact sounds y later

/-- With names that differ, the file of each class stands for its script in the end, unless it makes a
package of a later class one; then it stands for no source. -/
theorem CompilesScripts.entry {front back : List ScriptClass} {x : ScriptClass}
    (compiles : CompilesScripts (scriptCompiler b classpath template) output t
      (front ++ x :: back) results t')
    (normal : output.IsNormal) (leads : start.locate true output.text = .ok (.found root .directory))
    (before : IsEvolved root start t)
    (differ : ∀ y ∈ back, x.plugin.qualifiedName ≠ y.plugin.qualifiedName) :
    ∃ now, t'.get? (root ++ x.plugin.artifactNames) = some (.file now) ∧ statedDigest now =
      if ∃ y ∈ back, x.plugin.IsPackageOf y.plugin then digestBytes [] else digestBytes x.bytes := by
  induction front generalizing t results with
  | nil =>
    cases compiles with
    | cons read made declared first next =>
      obtain ⟨-, -, m, unit, bytes, holds⟩ :=
        compile_holds normal leads before read made declared first
      obtain ⟨now, there, stated⟩ := holds.entry_digest
      obtain ⟨last, there', stated'⟩ := next.keeps normal leads
        (before.trans (compile_evolved normal leads before first))
        (fun y member same => differ y member (PluginClass.qualifiedName_of_artifactNames same)) there
      exact ⟨last, there', by rw [stated', stated, bytes]⟩
  | cons y rest ih =>
    cases compiles with
    | cons read made declared first next =>
      exact ih next (before.trans (compile_evolved normal leads before first))

end

theorem PluginClass.IsSound.placeOf_artifact {c : PluginClass} (sound : c.IsSound) (t : FileTree)
    (output : Path) : t.placeOf (output.child (Target.bytecode.artifactPath c.qualifiedName)) =
      t.placeOf output ++ c.artifactNames := by
  have down : ".." ∉ c.artifactNames := fun member =>
    (sound.artifactNames_valid _ member).notAbove rfl
  rw [sound.artifactPath, Path.child_join output (by simp [artifactNames]) sound.artifactNames_valid,
    FileTree.placeOf, writtenPlace_append, writtenPlace_of_down down]
  rfl

/-- What the file of a class states at the end of a batch: the manifest was written over it, or it
stands for its script unless it makes a package of a later class one. -/
theorem holdsClass_iff {b : Backend} {classpath : List Path} {template : Template} {output : Path}
    {root place file : Place} {start t t' : FileTree} {front back : List ScriptClass} {x : ScriptClass}
    {results : List Compiled} {content : Bytes}
    (compiles : CompilesScripts (scriptCompiler b classpath template) output start
      (front ++ x :: back) results t)
    (sound : start.IsSound) (unlinked : start.IsUnlinked) (normal : output.IsNormal)
    (leads : start.locate true output.text = .ok (.found root .directory))
    (distinct : (manifest results).Nodup) (here : place = root ++ x.plugin.artifactNames)
    (sets : t.Sets file (.file content) t') :
    HoldsClass t' place x.bytes ↔
      (place = file → statedDigest content = digestBytes x.bytes) ∧
      (place ≠ file → ∀ y ∈ back, x.plugin.IsPackageOf y.plugin →
        digestBytes [] = digestBytes x.bytes) := by
  have first : IsEvolved root start start := ⟨.refl _ start, sound, unlinked⟩
  by_cases covered : place = file
  · rw [HoldsClass, covered, sets.get?_self]
    simp
  have differ : ∀ y ∈ back, x.plugin.qualifiedName ≠ y.plugin.qualifiedName := by
    rw [(compiles.names normal leads first).1, List.map_append, List.map_cons] at distinct
    intro y member same
    have later := (List.nodup_cons.mp (List.nodup_append.mp distinct).2.1).1
    exact later (same ▸ List.mem_map_of_mem member)
  obtain ⟨now, there, stated⟩ := compiles.entry normal leads first differ
  rw [HoldsClass, sets.get?_of_ne covered, here, there]
  constructor
  · rintro ⟨content, same, holds⟩
    cases same
    refine ⟨fun same => absurd (here.trans same) covered, fun _ y member makes => ?_⟩
    rw [← holds, stated, if_pos ⟨y, member, makes⟩]
  · rintro ⟨-, apart⟩
    refine ⟨now, rfl, ?_⟩
    rw [stated]
    split
    · rename_i makes
      obtain ⟨y, member, makes⟩ := makes
      exact apart (here ▸ covered) y member makes
    · rfl

namespace Batch

/-- A batch that ends well keeps every class exactly if no two of the scripts that its search comes to
declare classes of one name, no class makes a package of a later one, and the manifest is not written
over a class; where a class makes a package of a later one or lies below the manifest, it must have
the digest of what replaces it. -/
theorem keeps_classes_iff (b : Backend) (template : Template) (context : ExecutionContext)
    (suffix : String) (depth : Nat) (input output manifestPath : String) (extra : List Path)
    (w : Workspace) (sound : w.files.IsSound) (unlinked : w.files.IsUnlinked)
    {results : List Compiled} {w' : Workspace}
    (done : (Batch.mk template context (scriptToolchain b) suffix depth).run (Path.ofString input)
      (Path.ofString output) (Path.ofString manifestPath) extra w = .ok results w') :
    let directory := Path.ofString output
    let file := w.files.placeOf (Path.ofString manifestPath)
    let content := manifestContent (manifest results)
    let place (x : ScriptClass) : Place :=
      w.files.placeOf (directory.child (Target.bytecode.artifactPath x.plugin.qualifiedName))
    ∃ classpath w₀ start scripts t, assembleClasspath context extra w = .ok classpath w₀ ∧
      w.files.ensureDirectory directory = .ok () start ∧
      Discovers (scriptCompiler b classpath template) directory ⟨Path.ofString input, suffix, depth⟩
        start (scripts.map (·.source)) results t ∧
      CompilesScripts (scriptCompiler b classpath template) directory start scripts results t ∧
      t.write (Path.ofString manifestPath).text content = .ok () w'.files ∧
      ((manifest results).Nodup ∧ (∀ x ∈ scripts, HoldsClass w'.files (place x) x.bytes) ↔
        (scripts.map (·.plugin.qualifiedName)).Nodup ∧ ∀ front x back, scripts = front ++ x :: back →
          (place x = file → statedDigest content = digestBytes x.bytes) ∧
          (place x ≠ file → ∀ y ∈ back, x.plugin.IsPackageOf y.plugin →
            digestBytes [] = digestBytes x.bytes)) := by
  intro directory file content place
  have normal : directory.IsNormal := Path.isNormal_ofString output
  obtain ⟨classpath, w₀, start, sources, t, assembled, made, found, compiles, wrote⟩ := run_ok done
  have ensured := FileTree.ensures_of_ok sound unlinked normal made
  have first : IsEvolved (w.files.placeOf directory) start start :=
    ⟨.refl _ start, ensured.sound, ensured.unlinked⟩
  have evolved := compiles.evolved normal ensured.leads first
  obtain ⟨scripts, ran, rfl⟩ := CompilesAll.compilesScripts normal compiles
  obtain ⟨names, sounds⟩ := ran.names normal ensured.leads first
  refine ⟨classpath, w₀, start, scripts, t, assembled, made, found, ran, wrote, ?_⟩
  rw [← names]
  -- Both sides ask for distinct names, so each class can be looked at by itself.
  refine and_congr_right fun distinct => ?_
  obtain ⟨d, located, sets, -⟩ := FileTree.write_ok wrote
  have written : d.place = file := by
    rw [FileTree.locate_place evolved.unlinked (Path.isNormal_ofString manifestPath) located,
      FileTree.placeOf, (ensured.grows.trans evolved.evolves.grows).current]
    rfl
  rw [written] at sets
  have each : ∀ front x back, scripts = front ++ x :: back → (HoldsClass w'.files (place x) x.bytes ↔
      (place x = file → statedDigest content = digestBytes x.bytes) ∧
      (place x ≠ file → ∀ y ∈ back, x.plugin.IsPackageOf y.plugin →
        digestBytes [] = digestBytes x.bytes)) := by
    intro front x back whole
    have member : x ∈ scripts := whole ▸ List.mem_append_right front List.mem_cons_self
    subst whole
    exact holdsClass_iff ran ensured.sound ensured.unlinked normal ensured.leads distinct
      ((sounds x member).placeOf_artifact w.files directory) sets
  constructor
  · intro holds front x back whole
    have member : x ∈ scripts := whole ▸ List.mem_append_right front List.mem_cons_self
    exact (each front x back whole).mp (holds x member)
  · intro apart x member
    obtain ⟨front, back, whole⟩ := List.append_of_mem member
    exact (each front x back whole).mpr (apart front x back whole)

set_option maxRecDepth 100000 in
/-- Two scripts of one name in two directories: the batch ends well and does not keep both classes. -/
theorem sample_loses_class : ∃ results w',
    sample.run (Path.ofString "in") (Path.ofString "out") (Path.ofString "m") []
      (sampleWorkspace "x.plugin.py") = .ok results w' ∧
    ∃ classpath start scripts t, CompilesScripts (scriptCompiler (fun _ _ => []) classpath .plugin)
        (Path.ofString "out") start scripts results t ∧
      ¬ ((manifest results).Nodup ∧ ∀ x ∈ scripts, HoldsClass w'.files
        ((sampleWorkspace "x.plugin.py").files.placeOf ((Path.ofString "out").child
          (Target.bytecode.artifactPath x.plugin.qualifiedName))) x.bytes) := by
  have both : names (sample.run (Path.ofString "in") (Path.ofString "out") (Path.ofString "m") []
      (sampleWorkspace "x.plugin.py")) = ["X_plugin", "X_plugin"] := by decide +kernel
  obtain ⟨results, w', ended, listed⟩ := ok_of_names (by rw [both]; exact List.cons_ne_nil _ _)
  obtain ⟨classpath, -, start, scripts, t, -, -, -, compiles, -, -⟩ :=
    keeps_classes_iff (fun _ _ => []) .plugin _ defaultSuffix 2 "in" "out" "m" []
      (sampleWorkspace "x.plugin.py") (by decide +kernel) (by decide +kernel) ended
  refine ⟨results, w', ended, classpath, start, scripts, t, compiles, fun kept => ?_⟩
  have distinct := kept.1
  rw [listed, both] at distinct
  exact absurd distinct (by decide)

set_option maxRecDepth 100000 in
/-- Of two scripts of one name, the manifest has the name twice, and the one file that there is stands
for the second script. -/
theorem one_file_for_two_scripts :
    let ending := sample.run (Path.ofString "in") (Path.ofString "out") (Path.ofString "m") []
      (sampleWorkspace "x.plugin.py")
    names ending = ["X_plugin", "X_plugin"] ∧
      (finalState ending).files.get? ["out", "X_plugin.pyc"] =
        some (.file (compiledFile .bytecode [0x23, 0x0A] [])) ∧
      digestBytes [0x23, 0x0A] ≠ digestBytes [] := by
  decide +kernel

end Batch

end PluginBuild
