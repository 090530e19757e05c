import PluginBuild.Batch
import PluginBuild.Proofs.Gathering
import PluginBuild.Proofs.Sources
import PluginBuild.Script.Codecs

/-!
Batches. The output directory is made, the scripts are compiled one after the other as the search goes
on, each in the files that those before it left, and the manifest is written last.
-/

namespace PluginBuild

open PluginBuild.Files PluginBuild.Text

namespace Files.FileTree

variable {t t' : FileTree} {p : Path}

theorem ensureDirectory_ok (done : t.ensureDirectory p = .ok () t') :
    t' = t ∨ t.makeDirectory p.text = .ok () t' := by
  unfold ensureDirectory at done
  cases made : t.makeDirectory p.text with
  | ok _ t₁ =>
    rw [made] at done
    cases done
    exact .inr rfl
  | error e t₁ =>
    obtain rfl := makeDirectory_error made
    rw [made] at done
    split at done
    · rename_i ended
      exact nomatch ended
    · exact nomatch done
    · exact nomatch done
    · rename_i ended
      cases ended
      split at done
      · cases done
        exact .inl rfl
      · exact nomatch done
      · exact nomatch done

theorem ensureDirectory_error {e : FileError} (failed : t.ensureDirectory p = .error e t') :
    t' = t := by
  unfold ensureDirectory at failed
  cases made : t.makeDirectory p.text with
  | ok _ t₁ =>
    rw [made] at failed
    exact nomatch failed
  | error e₁ t₁ =>
    obtain rfl := makeDirectory_error made
    rw [made] at failed
    split at failed
    · exact nomatch failed
    · rename_i ended
      cases ended
      cases failed
      rfl
    · rename_i ended
      cases ended
      cases failed
      rfl
    · rename_i ended
      cases ended
      split at failed <;> cases failed <;> rfl

/-- In a tree without links, a directory that is ensured stands at the place that its path writes, and
no other place has changed. -/
structure Ensures (t : FileTree) (p : Path) (t' : FileTree) : Prop where
  sound : t'.IsSound
  unlinked : t'.IsUnlinked
  grows : t.Grows t'
  leads : t'.locate true p.text = .ok (.found (t.placeOf p) .directory)
  others : ∀ place, place ≠ t.placeOf p → t'.get? place = t.get? place

theorem ensures_of_ok (sound : t.IsSound) (unlinked : t.IsUnlinked) (normal : p.IsNormal)
    (done : t.ensureDirectory p = .ok () t') : t.Ensures p t' := by
  obtain ⟨place, leads⟩ := (t.ensureDirectory_spec p).2 t' done
  rcases ensureDirectory_ok done with rfl | made
  · have here : place = t'.placeOf p := locate_place unlinked normal leads
    exact ⟨sound, unlinked, .refl t', here ▸ leads, fun _ _ => rfl⟩
  · obtain ⟨sound', unlinked'⟩ := makeDirectory_isSound sound unlinked made
    obtain ⟨made, free, sets, leads⟩ := makeDirectory_ok made
    have here : made = t.placeOf p := locate_place unlinked normal free
    exact ⟨sound', unlinked', sets.grows, here ▸ leads, fun place differ =>
      sets.get?_of_ne (here ▸ differ)⟩

end Files.FileTree

theorem assembleClasspath_reads (c : ExecutionContext) (extra : List Path) :
    OnlyReads (assembleClasspath c extra) :=
  gatherClasspath_reads _ _ extra

/-- Scripts are compiled one after the other, each in the files that those before it left. -/
inductive CompilesAll (c : Compiler) (output : Path) :
    FileTree → List Path → List Compiled → FileTree → Prop
  | nil (t : FileTree) : CompilesAll c output t [] [] t
  | cons {source : Path} {rest : List Path} {compiled : Compiled} {results : List Compiled}
    {w w₁ : Workspace} {t' : FileTree} (first : c.compile source output w = .ok compiled w₁)
    (next : CompilesAll c output w₁.files rest results t') :
    CompilesAll c output w.files (source :: rest) (compiled :: results) t'

section
variable {c : Compiler} {output source : Path} {results : List Compiled} {w w' : Workspace}

theorem compile?_run (c : Compiler) (source output : Path) (w : Workspace) :
    c.compile? source output w = match c.compile source output w with
      | .ok compiled w => .ok (.ok compiled) w
      | .error (.compilation f) w => .ok (.error f) w
      | .error e w => .error e w := by
  unfold Compiler.compile?
  rw [Build.bind_run, Build.outcome_run]
  cases c.compile source output w with
  | ok compiled w => rfl
  | error e w => cases e <;> rfl

theorem step_run (c : Compiler) (output source : Path) (results : List Compiled) (w : Workspace) :
    (Batch.step c output source).run results w = match c.compile source output w with
      | .ok compiled w => .ok ((), results ++ [compiled])
          { w with log := w.log ++ [⟨.info, s!"compiled {source} -> {compiled.qualifiedName}"⟩] }
      | .error e w => .error e w := by
  unfold Batch.step
  rw [StateT.run_bind, Build.bind_run, Build.lift_run, compile?_run]
  cases c.compile source output w with
  | ok compiled w => rfl
  | error e w => cases e <;> rfl

theorem compilesAll_of_forM {sources : List Path} {results' : List Compiled}
    (ran : (sources.forM (Batch.step c output)).run results w = .ok ((), results') w') :
    ∃ added, results' = results ++ added ∧
      CompilesAll c output w.files sources added w'.files := by
  induction sources generalizing results w with
  | nil =>
    cases ran
    exact ⟨[], (List.append_nil _).symm, .nil _⟩
  | cons source rest ih =>
    rw [Build.forM_cons_runState, step_run] at ran
    cases ended : c.compile source output w with
    | error e w₁ =>
      rw [ended] at ran
      exact nomatch ran
    | ok compiled w₁ =>
      rw [ended] at ran
      obtain ⟨added, rfl, more⟩ := ih ran
      exact ⟨compiled :: added, by simp, .cons ended more⟩

theorem step_error {e : Failure} (fails : (Batch.step c output source).run results w = .error e w') :
    c.compile source output w = .error e w' := by
  rw [step_run] at fails
  split at fails
  · exact nomatch fails
  · rename_i ended
    cases fails
    exact ended

end

section
variable {b : Backend} {classpath : List Path} {template : Template} {source output : Path}
  {root : Place} {start : FileTree} {w w' : Workspace}

theorem compile_evolved {ended : EStateM.Result Failure Workspace Compiled} (normal : output.IsNormal)
    (leads : start.locate true output.text = .ok (.found root .directory))
    (before : IsEvolved root start w.files)
    (ran : (scriptCompiler b classpath template).compile source output w = ended) :
    IsEvolved root w.files (finalState ended).files := by
  have evolves := compile_evolves b classpath template source output w before.sound
    before.unlinked normal (FileTree.locate_grow_directory leads before.evolves.grows)
  rw [ran] at evolves
  exact ⟨evolves.1, evolves.2.1, evolves.2.2⟩

theorem step_evolving (normal : output.IsNormal)
    (leads : start.locate true output.text = .ok (.found root .directory)) :
    Evolving root start (Batch.step (scriptCompiler b classpath template) output) := by
  intro source results w results' w' before ran
  rw [step_run] at ran
  split at ran
  · rename_i compiled w₁ ended
    cases ran
    exact compile_evolved normal leads before ended
  · exact nomatch ran

theorem CompilesAll.evolved {t t' : FileTree} {sources : List Path} {results : List Compiled}
    (compiles : CompilesAll (scriptCompiler b classpath template) output t sources results t')
    (normal : output.IsNormal)
    (leads : start.locate true output.text = .ok (.found root .directory))
    (before : IsEvolved root start t) : IsEvolved root start t' := by
  induction compiles with
  | nil => exact before
  | cons first _ ih => exact ih (before.trans (compile_evolved normal leads before first))

end

/-- The end of a batch once the scripts were visited: if all of them are compiled, the manifest is
written. -/
def Batch.finish (manifestPath : Path) :
    EStateM.Result Failure Workspace (Unit × List Compiled) →
      EStateM.Result Failure Workspace (List Compiled)
  | .error e w => .error e w
  | .ok (_, results) w =>
    match w.files.write manifestPath.text (manifestContent (manifest results)) with
    | .error e files => .error (.file e) { w with files }
    | .ok _ files => .ok results { w with
        files
        log := w.log ++
          [⟨.info, s!"manifest: {manifestPath} ({results.length} plugin(s))"⟩] }

theorem Batch.finish_ok {manifestPath : Path}
    {visited : EStateM.Result Failure Workspace (Unit × List Compiled)} {results : List Compiled}
    {w' : Workspace} (done : Batch.finish manifestPath visited = .ok results w') :
    ∃ w, visited = .ok ((), results) w ∧
      w.files.write manifestPath.text (manifestContent (manifest results)) = .ok () w'.files := by
  cases visited with
  | error e w => cases done
  | ok result w =>
    obtain ⟨⟨⟩, results'⟩ := result
    unfold Batch.finish at done
    dsimp only at done
    cases wrote : w.files.write manifestPath.text (manifestContent (manifest results')) with
    | error e files =>
      rw [wrote] at done
      cases done
    | ok _ files =>
      rw [wrote] at done
      cases done
      exact ⟨w, rfl, wrote⟩

theorem Batch.finish_error {manifestPath : Path}
    {visited : EStateM.Result Failure Workspace (Unit × List Compiled)} {e : Failure}
    {w' : Workspace} (failed : Batch.finish manifestPath visited = .error e w') :
    visited = .error e w' ∨
      ∃ results w, visited = .ok ((), results) w ∧ w'.files = w.files := by
  cases visited with
  | error e' w =>
    cases failed
    exact .inl rfl
  | ok result w =>
    obtain ⟨⟨⟩, results⟩ := result
    unfold Batch.finish at failed
    dsimp only at failed
    cases wrote : w.files.write manifestPath.text (manifestContent (manifest results)) with
    | error e files =>
      rw [wrote] at failed
      cases failed
      exact .inr ⟨results, w, rfl, FileTree.write_error wrote⟩
    | ok _ files =>
      rw [wrote] at failed
      cases failed

def Batch.started (classpath : List Path) (w : Workspace) : Workspace :=
  { w with log := w.log ++
    [⟨.debug, "classpath: [" ++ join ", " (classpath.map (quoted ·.text)) ++ "]"⟩] }

/-- A batch that comes to its scripts in a way of its own. -/
def Batch.visiting (batch : Batch)
    (visit : (Path → StateT (List Compiled) Build Unit) → StateT (List Compiled) Build Unit)
    (output manifestPath : Path) (extra : List Path) : Build (List Compiled) := do
  let classpath ← assembleClasspath batch.context extra
  Build.record .debug ("classpath: [" ++ join ", " (classpath.map (quoted ·.text)) ++ "]")
  Build.change (·.ensureDirectory output)
  let ((), results) ← (visit (step ⟨classpath, batch.template, batch.toolchain⟩ output)).run []
  writeManifest manifestPath (manifest results)
  Build.record .info s!"manifest: {manifestPath} ({results.length} plugin(s))"
  return results

theorem Batch.run_eq_visiting (batch : Batch) (input output manifestPath : Path) (extra : List Path) :
    batch.run input output manifestPath extra =
      batch.visiting (Search.mk input batch.suffix batch.depth).visit output manifestPath extra := rfl

section
variable (batch : Batch)
  (visit : (Path → StateT (List Compiled) Build Unit) → StateT (List Compiled) Build Unit)
  {output : Path} {extra classpath : List Path} {start : FileTree} {w w₀ : Workspace}

theorem Batch.visiting_of_assembled
    (assembled : assembleClasspath batch.context extra w = .ok classpath w₀)
    (made : w.files.ensureDirectory output = .ok () start) (manifestPath : Path) :
    batch.visiting visit output manifestPath extra w = Batch.finish manifestPath
      ((visit (Batch.step ⟨classpath, batch.template, batch.toolchain⟩ output)).run []
        { Batch.started classpath w₀ with files := start }) := by
  have same := ((assembleClasspath_reads batch.context extra).agrees_of_ok assembled).files
  rw [Batch.visiting, Build.bind_run, assembled]
  show (Build.change (·.ensureDirectory output) >>= _ : Build _) (started classpath w₀) = _
  rw [Build.bind_run, Build.change_run, show (started classpath w₀).files = w.files from same, made]
  dsimp only
  rw [Build.bind_run]
  cases (visit (Batch.step ⟨classpath, batch.template, batch.toolchain⟩ output)).run []
      { started classpath w₀ with files := start } with
  | error e w₂ => rfl
  | ok result w₂ =>
    obtain ⟨⟨⟩, results⟩ := result
    unfold Batch.finish
    dsimp only
    rw [Build.bind_run, writeManifest, Build.change_run]
    cases w₂.files.write manifestPath.text (manifestContent (manifest results)) <;> rfl

/-- A batch fails before it has changed anything, or the output directory is made and the scripts are
visited. -/
theorem Batch.visiting_cases (output manifestPath : Path) (extra : List Path) (w : Workspace) :
    (∃ e w', batch.visiting visit output manifestPath extra w = .error e w' ∧ w'.files = w.files) ∨
    ∃ classpath w₀ start w₁, assembleClasspath batch.context extra w = .ok classpath w₀ ∧
      w.files.ensureDirectory output = .ok () start ∧ w₁.files = start ∧
      batch.visiting visit output manifestPath extra w = Batch.finish manifestPath
        ((visit (Batch.step ⟨classpath, batch.template, batch.toolchain⟩ output)).run [] w₁) := by
  have reads := assembleClasspath_reads batch.context extra
  cases assembled : assembleClasspath batch.context extra w with
  | error e w' =>
    refine .inl ⟨e, w', ?_, (reads.agrees_of_error assembled).files⟩
    rw [Batch.visiting, Build.bind_run, assembled]
  | ok classpath w₀ =>
    have same := (reads.agrees_of_ok assembled).files
    cases made : w.files.ensureDirectory output with
    | error e files =>
      refine .inl ⟨.file e, { started classpath w₀ with files }, ?_,
        FileTree.ensureDirectory_error made⟩
      rw [Batch.visiting, Build.bind_run, assembled]
      show (Build.change (·.ensureDirectory output) >>= _ : Build _) (started classpath w₀) = _
      rw [Build.bind_run, Build.change_run,
        show (started classpath w₀).files = w.files from same, made]
    | ok _ start =>
      exact .inr ⟨classpath, w₀, start, _, rfl, rfl, rfl,
        batch.visiting_of_assembled visit assembled made manifestPath⟩

end

theorem Batch.run_cases (batch : Batch) (input output manifestPath : Path) (extra : List Path)
    (w : Workspace) :
    (∃ e w', batch.run input output manifestPath extra w = .error e w' ∧ w'.files = w.files) ∨
    ∃ classpath w₀ start w₁, assembleClasspath batch.context extra w = .ok classpath w₀ ∧
      w.files.ensureDirectory output = .ok () start ∧ w₁.files = start ∧
      batch.run input output manifestPath extra w = Batch.finish manifestPath
        (((Search.mk input batch.suffix batch.depth).visit
          (Batch.step ⟨classpath, batch.template, batch.toolchain⟩ output)).run [] w₁) :=
  batch.visiting_cases _ output manifestPath extra w

/-- A search that starts in a tree comes to these scripts, in this order, while each is compiled before
the search goes on; the compilations have these results and leave the other tree. -/
def Batch.Discovers (c : Compiler) (output : Path) (search : Search) (start : FileTree)
    (sources : List Path) (results : List Compiled) (t : FileTree) : Prop :=
  ∃ w w', w.files = start ∧ w'.files = t ∧
    (search.visit (noting (step c output))).run ([], []) w = .ok ((), sources, results) w'

/-- Where a batch ends well, the scripts that the search came to were compiled one after the other,
and the manifest with their names was written. -/
theorem Batch.run_ok {batch : Batch} {input output manifestPath : Path} {extra : List Path}
    {results : List Compiled} {w w' : Workspace}
    (done : batch.run input output manifestPath extra w = .ok results w') :
    ∃ classpath w₀ start sources t, assembleClasspath batch.context extra w = .ok classpath w₀ ∧
      w.files.ensureDirectory output = .ok () start ∧
      Discovers ⟨classpath, batch.template, batch.toolchain⟩ output
        ⟨input, batch.suffix, batch.depth⟩ start sources results t ∧
      CompilesAll ⟨classpath, batch.template, batch.toolchain⟩ output start sources results t ∧
      t.write manifestPath.text (manifestContent (manifest results)) = .ok () w'.files := by
  rcases batch.run_cases input output manifestPath extra w with
    ⟨e, w₁, failed, -⟩ | ⟨classpath, w₀, start, w₁, assembled, made, files, ran⟩
  · exact nomatch failed.symm.trans done
  rw [ran] at done
  obtain ⟨w₂, visited, wrote⟩ := Batch.finish_ok done
  obtain ⟨sources, each, noted⟩ := Search.visit_onlyVisits _ _ [] _ _ _ _ visited
  obtain ⟨added, rfl, compiles⟩ := compilesAll_of_forM each
  exact ⟨classpath, w₀, start, sources, w₂.files, assembled, made, ⟨w₁, w₂, files, rfl, noted⟩,
    files ▸ compiles, wrote⟩

namespace Batch

/-- A library and two scripts, each in a directory of its own; the second has a name of choice. -/
def sampleWorkspace (second : String) : Workspace :=
  ⟨⟨[(["lib"], .directory), (["lib", "toolchain"], .directory), (["in"], .directory),
    (["in", "a"], .directory), (["in", "b"], .directory), (["in", "a", "x.plugin.py"], .file []),
    (["in", "b", second], .file [0x23, 0x0A])], [], .plain⟩, [], [], [], []⟩

def sample : Batch :=
  ⟨.plugin, ⟨some [], some [.string "lib"]⟩, scriptToolchain fun _ _ => [], defaultSuffix, 2⟩

def names : EStateM.Result Failure Workspace (List Compiled) → List String
  | .ok results _ => manifest results
  | .error _ _ => []

def fails : EStateM.Result Failure Workspace (List Compiled) → Bool
  | .ok _ _ => false
  | .error _ _ => true

theorem ok_of_names {ended : EStateM.Result Failure Workspace (List Compiled)}
    (nonempty : names ended ≠ []) :
    ∃ results w', ended = .ok results w' ∧ manifest results = names ended := by
  cases ended with
  | ok results w' => exact ⟨results, w', rfl, rfl⟩
  | error e w' => exact absurd rfl nonempty

end Batch

end PluginBuild
