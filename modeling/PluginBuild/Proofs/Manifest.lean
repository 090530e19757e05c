import PluginBuild.Proofs.Batches
import PluginBuild.Proofs.Text.Utf8

/-!
The manifest of a batch is written for all scripts or not at all. It names the class of each script
that the search would have found before the first compilation, although the search goes on while
compiled files are written; and a batch that fails leaves the manifest as it was.
-/

namespace PluginBuild

open PluginBuild.Files PluginBuild.Script PluginBuild.Text

theorem PluginClass.IsSound.absent_qualifiedName {c : PluginClass} (sound : c.IsSound) {letter : Char}
    (reserved : letter.toNat ≤ 0x2F) (other : letter ≠ '.') :
    letter ∉ c.qualifiedName.toList := by
  intro member
  rw [c.qualifiedName_eq_join] at member
  rcases mem_join member with dot | ⟨part, inside, holds⟩
  · exact other (List.mem_singleton.mp dot)
  · rcases List.mem_append.mp inside with package | last
    · have plain := (isPlain_of_isIdentifier (sound.isIdentifier_of_mem package)).1
      exact plain.absent reserved holds
    · rw [List.mem_singleton.mp last] at holds
      exact sound.name.absent reserved holds

theorem split_lines {names : List String} (absent : ∀ name ∈ names, '\n' ∉ name.toList) :
    split '\n' (String.join (names.map (· ++ "\n"))) = names ++ [""] := by
  induction names with
  | nil => rfl
  | cons name rest ih =>
    have later := ih fun name member => absent name (List.mem_cons_of_mem _ member)
    rw [List.map_cons, String.join_cons, split_append rfl,
      split_of_absent (absent name List.mem_cons_self), later]
    rfl

/-- The class of a compiled script is the one that the script declares in a tree. -/
def IsNamedBy (template : Template) (t : FileTree) (source : Path) (compiled : Compiled) : Prop :=
  ∃ bytes unit, t.read (t.absolute source).text = .ok bytes ∧
    SourceUnit.ofBytes t.platform.codec? (t.absolute source)
      (template.isScript (t.absolute source).name) bytes = .ok unit ∧
    compiled.qualifiedName = (PluginClass.ofScript (t.absolute source) unit.tree).qualifiedName

section
variable {b : Backend} {classpath : List Path} {template : Template} {suffix : String}
  {source directory : Path} {root : Place} {start t t' : FileTree} {w w' : Workspace}

theorem compile_named {compiled : Compiled}
    (done : (scriptCompiler b classpath template).compile source directory w = .ok compiled w') :
    IsNamedBy template w.files source compiled ∧ '\n' ∉ compiled.qualifiedName.toList := by
  rcases compile_cases b classpath template source directory w with
    ⟨e, w'', failed, -, -⟩ | ⟨unit, c, m, outputs, w₁, last, known, same, keeps, ended⟩
  · exact nomatch failed.symm.trans done
  · rw [ended] at done
    split at done
    · cases done
      refine ⟨⟨unit.bytes, unit, known.read, known.made, ?_⟩,
        known.sound.absent_qualifiedName (by decide) (by decide)⟩
      rw [plugin_of_ofBytes known.made known.script]
    · exact nomatch done

theorem IsNamedBy.of_evolved {compiled : Compiled} (named : IsNamedBy template t source compiled)
    (script : IsSource start suffix source) (sound : start.IsSound) (unlinked : start.IsUnlinked)
    (other : ∀ name, endsWith name suffix = true → endsWith name compiledEnding = false)
    (evolved : IsEvolved root start t) : IsNamedBy template start source compiled := by
  obtain ⟨bytes, unit, read, made, name⟩ := named
  have before := script.read_of_evolved sound unlinked other evolved read
  rw [FileTree.absolute_of_current evolved.evolves.grows.current, evolved.evolves.grows.platform] at made
  rw [FileTree.absolute_of_current evolved.evolves.grows.current] at name
  exact ⟨bytes, unit, before, made, name⟩

theorem CompilesAll.named {sources : List Path} {results : List Compiled}
    (compiles : CompilesAll (scriptCompiler b classpath template) directory t sources results t')
    (sound : start.IsSound) (unlinked : start.IsUnlinked) (normal : directory.IsNormal)
    (leads : start.locate true directory.text = .ok (.found root .directory))
    (other : ∀ name, endsWith name suffix = true → endsWith name compiledEnding = false)
    (scripts : ∀ source ∈ sources, IsSource start suffix source)
    (before : IsEvolved root start t) : List.Forall₂ (IsNamedBy template start) sources results := by
  induction compiles with
  | nil => exact .nil
  | cons first next ih =>
    have here := compile_evolved normal leads before first
    refine .cons ?_ (ih (fun source member => scripts source (List.mem_cons_of_mem _ member))
      (before.trans here))
    exact (compile_named first).1.of_evolved (scripts _ List.mem_cons_self) sound unlinked other before

theorem CompilesAll.unbroken {sources : List Path} {results : List Compiled}
    (compiles : CompilesAll (scriptCompiler b classpath template) directory t sources results t') :
    ∀ name ∈ manifest results, '\n' ∉ name.toList := by
  induction compiles with
  | nil => exact fun _ member => nomatch member
  | cons first _ ih =>
    intro name member
    rcases List.mem_cons.mp member with rfl | later
    · exact (compile_named first).2
    · exact ih name later

end

theorem endsWith_compiledEnding {suffix : String} (nonempty : suffix ≠ "")
    (differ : suffix.toList.getLast? ≠ some 'c') (name : String)
    (asked : endsWith name suffix = true) : endsWith name compiledEnding = false := by
  obtain ⟨front, whole⟩ := List.isSuffixOf_iff_suffix.mp asked
  rw [Bool.eq_false_iff]
  intro compiled
  obtain ⟨before, same⟩ := List.isSuffixOf_iff_suffix.mp compiled
  have chars : suffix.toList ≠ [] := mt String.toList_eq_nil_iff.mp nonempty
  have last : name.toList.getLast? = suffix.toList.getLast? := by
    rw [← whole, List.getLast?_append_of_ne_nil _ chars]
  rw [← same, List.getLast?_append_of_ne_nil _ (by decide)] at last
  exact differ last.symm

/-- What a batch that fails has compiled: some of the scripts in their order, and none behind one
that is not compiled. -/
inductive StopsEarly (c : Compiler) (output : Path) (expected : Except Failure (List Path))
    (start : FileTree) (e : Failure) (w' : Workspace) : Prop
  | between {done : List Path} {results : List Compiled}
    (compiles : CompilesAll c output start done results w'.files)
    (front : ∀ sources, expected = .ok sources → done <+: sources)
  | within {done : List Path} {last : Path} {results : List Compiled} {w : Workspace}
    (compiles : CompilesAll c output start done results w.files)
    (fails : c.compile last output w = .error e w')
    (front : ∀ sources, expected = .ok sources → done ++ [last] <+: sources)

section
variable {c : Compiler} {output manifestPath : Path} {expected : Except Failure (List Path)}
  {visited : EStateM.Result Failure Workspace (Unit × List Compiled)} {w w' : Workspace}

theorem Covers.finish_ok {results : List Compiled}
    (covers : Covers (Batch.step c output) expected [] w visited)
    (done : Batch.finish manifestPath visited = .ok results w') :
    ∃ sources t, expected = .ok sources ∧ CompilesAll c output w.files sources results t ∧
      t.write manifestPath.text (manifestContent (manifest results)) = .ok () w'.files := by
  obtain ⟨w₁, rfl, wrote⟩ := Batch.finish_ok done
  cases covers with
  | all known ran =>
    obtain ⟨added, rfl, compiles⟩ := compilesAll_of_forM ran
    exact ⟨_, w₁.files, known, compiles, wrote⟩

theorem Covers.finish_error {e : Failure}
    (covers : Covers (Batch.step c output) expected [] w visited)
    (failed : Batch.finish manifestPath visited = .error e w') :
    StopsEarly c output expected w.files e w' := by
  rcases Batch.finish_error failed with rfl | ⟨results, w₁, rfl, same⟩
  · cases covers with
    | stopped ran front =>
      obtain ⟨added, -, compiles⟩ := compilesAll_of_forM ran
      exact .between compiles front
    | failed ran fails front =>
      obtain ⟨added, -, compiles⟩ := compilesAll_of_forM ran
      exact .within compiles (step_error fails) front
  · -- All scripts are compiled, and it is the manifest that could not be written.
    cases covers with
    | all known ran =>
      obtain ⟨added, -, compiles⟩ := compilesAll_of_forM ran
      refine .between (same ▸ compiles) fun sources other => ?_
      obtain rfl := Except.ok.inj (known.symm.trans other)
      exact List.prefix_rfl

end

theorem StopsEarly.evolved {b : Backend} {classpath : List Path} {template : Template}
    {directory : Path} {root : Place} {start : FileTree} {expected : Except Failure (List Path)}
    {e : Failure} {w' : Workspace}
    (stops : StopsEarly (scriptCompiler b classpath template) directory expected start e w')
    (sound : start.IsSound) (unlinked : start.IsUnlinked) (normal : directory.IsNormal)
    (leads : start.locate true directory.text = .ok (.found root .directory)) :
    IsEvolved root start w'.files := by
  have first : IsEvolved root start start := ⟨.refl root start, sound, unlinked⟩
  cases stops with
  | between compiles => exact compiles.evolved normal leads first
  | within compiles fails =>
    have before := compiles.evolved normal leads first
    exact before.trans (compile_evolved normal leads before fails)

/-- A path that does not lead into the output directory leads to what it led to before the directory
was made and scripts were compiled into it. -/
theorem Files.FileTree.Ensures.keeps {t start t' : FileTree} {directory file : Path}
    (ensured : t.Ensures directory start) (sound : t.IsSound) (unlinked : t.IsUnlinked)
    (normal : file.IsNormal) (apart : ¬ t.placeOf directory <+: t.placeOf file)
    (evolved : IsEvolved (t.placeOf directory) start t') :
    t'.get? (t.placeOf file) = t.get? (t.placeOf file) ∧
      ∀ content, t.read file.text = .ok content → t'.read file.text = .ok content := by
  have outside : t.placeOf file ≠ t.placeOf directory := fun same =>
    apart (same ▸ List.prefix_rfl)
  have same := (evolved.evolves.get?_of_not_below apart).trans (ensured.others _ outside)
  refine ⟨same, fun content read => ?_⟩
  exact read_of_grows sound unlinked normal (ensured.grows.trans evolved.evolves.grows) same read

namespace Batch

/-- Where a batch ends well, its manifest has a line for each script that the search finds in the tree
with the output directory, before any compilation: the name of the class that the script declares
there, in the order of the search. Where it fails, the place of the manifest is as it was, and no
script was compiled behind the one that failed; the write of the manifest itself fails before it
begins, if it does. The output may lie inside the input; the manifest must not lie at the output or
inside it, and the ending of scripts must not be one of compiled files. -/
theorem manifest_all_or_nothing (b : Backend) (template : Template) (context : ExecutionContext)
    (suffix : String) (depth : Nat) (input output manifestPath : String) (extra : List Path)
    (w : Workspace) (sound : w.files.IsSound) (unlinked : w.files.IsUnlinked)
    (nonempty : suffix ≠ "") (differ : suffix.toList.getLast? ≠ some 'c')
    (apart : ¬ w.files.placeOf (Path.ofString output) <+:
      w.files.placeOf (Path.ofString manifestPath)) :
    let directory := Path.ofString output
    let file := Path.ofString manifestPath
    let search : Search := ⟨Path.ofString input, suffix, depth⟩
    let batch : Batch := ⟨template, context, scriptToolchain b, suffix, depth⟩
    let ending := batch.run (Path.ofString input) directory file extra w
    (∀ results w', ending = .ok results w' → ∃ classpath w₀ start sources t text,
      assembleClasspath context extra w = .ok classpath w₀ ∧
      w.files.ensureDirectory directory = .ok () start ∧
      search.find start = .ok sources ∧
      CompilesAll (scriptCompiler b classpath template) directory start sources results t ∧
      List.Forall₂ (IsNamedBy template start) sources results ∧
      w'.files.read file.text = .ok (encodeUtf8 text) ∧
      text = String.join ((manifest results).map (· ++ "\n")) ∧
      decodeUtf8 (encodeUtf8 text) = .ok text ∧
      split '\n' text = manifest results ++ [""]) ∧
    ∀ e w', ending = .error e w' →
      w'.files.get? (w.files.placeOf file) = w.files.get? (w.files.placeOf file) ∧
      (∀ content, w.files.read file.text = .ok content → w'.files.read file.text = .ok content) ∧
      (w'.files = w.files ∨ ∃ classpath w₀ start,
        assembleClasspath context extra w = .ok classpath w₀ ∧
        w.files.ensureDirectory directory = .ok () start ∧
        StopsEarly (scriptCompiler b classpath template) directory (search.find start) start e w') := by
  intro directory file search batch ending
  have normal : directory.IsNormal := Path.isNormal_ofString output
  have normalFile : file.IsNormal := Path.isNormal_ofString manifestPath
  have other := endsWith_compiledEnding nonempty differ
  rcases batch.run_cases (Path.ofString input) directory file extra w with
    ⟨e, w₁, failed, same⟩ | ⟨classpath, w₀, start, w₁, assembled, made, files, ran⟩
  · constructor
    · intro results w' done
      cases failed.symm.trans done
    · intro e' w' failed'
      obtain ⟨-, rfl⟩ := EStateM.Result.error.inj (failed.symm.trans failed')
      rw [same]
      exact ⟨rfl, fun _ read => read, .inl rfl⟩
  have ensured := FileTree.ensures_of_ok sound unlinked normal made
  -- The visits cover what the search would have found beforehand; the manifest is written behind them.
  let c := scriptCompiler b classpath template
  have covers : Covers (step c directory) (search.find start) [] w₁
      ((search.visit (step c directory)).run [] w₁) :=
    Search.visit_covers ensured.sound ensured.unlinked other (step_evolving normal ensured.leads)
      (Path.isNormal_ofString input) files
  have ran : ending = finish file ((search.visit (step c directory)).run [] w₁) := ran
  rw [ran]
  constructor
  · intro results w' done
    obtain ⟨sources, t, found, compiles, wrote⟩ := covers.finish_ok done
    rw [files] at compiles
    have first : IsEvolved (w.files.placeOf directory) start start :=
      ⟨.refl _ start, ensured.sound, ensured.unlinked⟩
    have scripts := Search.isSource_of_find ensured.sound ensured.unlinked
      (Path.isNormal_ofString input) found
    have named := compiles.named ensured.sound ensured.unlinked normal ensured.leads other scripts
      first
    obtain ⟨d, -, -, located⟩ := FileTree.write_ok wrote
    refine ⟨classpath, w₀, start, sources, t, _, assembled, made, found, compiles, named, ?_, rfl,
      decodeUtf8_encodeUtf8 _, split_lines compiles.unbroken⟩
    rw [FileTree.read, located]
    rfl
  · intro e w' failed
    have stops := covers.finish_error failed
    rw [files] at stops
    obtain ⟨same, reads⟩ := ensured.keeps sound unlinked normalFile apart
      (stops.evolved ensured.sound ensured.unlinked normal ensured.leads)
    exact ⟨same, reads, .inr ⟨classpath, w₀, start, assembled, made, stops⟩⟩

set_option maxRecDepth 100000 in
/-- A batch that writes among its own scripts: its manifest names both of them. -/
theorem manifest_of_sample : ∃ results w',
    sample.run (Path.ofString "in") (Path.ofString "in/b") (Path.ofString "m") []
      (sampleWorkspace "y.plugin.py") = .ok results w' ∧
    w'.files.read "m" = .ok (encodeUtf8 "X_plugin\nY_plugin\n") := by
  have both : names (sample.run (Path.ofString "in") (Path.ofString "in/b") (Path.ofString "m") []
      (sampleWorkspace "y.plugin.py")) = ["X_plugin", "Y_plugin"] := by decide +kernel
  obtain ⟨results, w', ended, listed⟩ := ok_of_names (by rw [both]; exact List.cons_ne_nil _ _)
  obtain ⟨-, -, -, -, -, text, -, -, -, -, -, read, rfl, -⟩ :=
    (manifest_all_or_nothing (fun _ _ => []) .plugin _ defaultSuffix 2 "in" "in/b" "m" []
      (sampleWorkspace "y.plugin.py") (by decide +kernel) (by decide +kernel) (by decide)
      (by decide) (by decide +kernel)).1 results w' ended
  refine ⟨results, w', ended, ?_⟩
  rw [listed, both] at read
  exact read

end Batch

end PluginBuild
