import PluginBuild.Proofs.Failures
import PluginBuild.Proofs.Invariants
import PluginBuild.Script.Codecs

/-!
Compilations that are given up. Whatever toolchain is used, nothing is written before all files of a
script are generated and the file of its class is among them. So a compilation that fails leaves the
files as they were, except where the system refuses to write one of the generated files. A null
character in a path is no such refusal, but it can come up late: behind files that stand on their own
paths, where the output directory has one.
-/

namespace PluginBuild

open PluginBuild.Files PluginBuild.Text

theorem Text.mem_join_of_mem {between part : String} {parts : List String} {c : Char}
    (member : part ∈ parts) (inside : c ∈ part.toList) : c ∈ (join between parts).toList := by
  induction parts with
  | nil => exact nomatch member
  | cons first rest ih =>
    cases rest with
    | nil =>
      rw [List.mem_singleton.mp member] at inside
      exact inside
    | cons next rest =>
      rw [join]
      · simp only [String.toList_append, List.mem_append]
        rcases List.mem_cons.mp member with same | later
        · rw [same] at inside
          exact .inl (.inl inside)
        · exact .inr (ih later)
      · simp

namespace Path

theorem null_mem_text {p : Path} :
    '\x00' ∈ p.text.toList ↔ ∃ part ∈ p.parts, '\x00' ∈ part.toList := by
  constructor
  · intro null
    unfold text at null
    split at null
    · exact absurd null (by decide)
    · rw [String.toList_append, List.mem_append] at null
      rcases null with anchor | parts
      · exact absurd anchor (by cases p.anchor <;> decide)
      · rcases mem_join parts with slash | found
        · exact absurd slash (by decide)
        · exact found
  · rintro ⟨part, member, null⟩
    unfold text
    split
    · rename_i bare
      rw [bare.2] at member
      exact nomatch member
    · rw [String.toList_append, List.mem_append]
      exact .inr (mem_join_of_mem member null)

theorem null_notMem_child {base : Path} {s : String} (absent : '\x00' ∉ base.text.toList)
    (clean : '\x00' ∉ s.toList) : '\x00' ∉ (base.child s).text.toList := by
  intro null
  obtain ⟨part, member, inside⟩ := null_mem_text.mp null
  have notOfString : part ∉ (ofString s).parts := fun listed =>
    clean (mem_of_mem_split (List.mem_of_mem_filter listed) inside)
  unfold child resolve at member
  split at member
  · exact notOfString member
  · rcases List.mem_append.mp member with above | below
    · exact absent (null_mem_text.mpr ⟨part, above, inside⟩)
    · exact notOfString below

theorem null_notMem_parent {p : Path} (absent : '\x00' ∉ p.text.toList) :
    '\x00' ∉ p.parent.text.toList := by
  intro null
  obtain ⟨part, member, inside⟩ := null_mem_text.mp null
  exact absent (null_mem_text.mpr ⟨part, (List.dropLast_prefix _).subset member, inside⟩)

end Path

def Files.FileError.IsRefusal (e : FileError) : Prop := ∃ reason path, e = .refused reason path

namespace Files.FileTree

variable {t t' : FileTree} {e : FileError}

theorem locate_null {s : String} {follow : Bool} (null : '\x00' ∈ s.toList) :
    t.locate follow s = .error .nullCharacter := by
  simp [locate, null]

theorem locate_isRefusal {s : String} {follow : Bool} (absent : '\x00' ∉ s.toList)
    (failed : t.locate follow s = .error e) : e.IsRefusal := by
  unfold locate at failed
  rw [if_neg (by simpa using absent)] at failed
  split at failed
  · cases failed
    exact ⟨_, _, rfl⟩
  · exact nomatch failed

theorem makeDirectory_isRefusal {s : String} (absent : '\x00' ∉ s.toList)
    (failed : t.makeDirectory s = .error e t') : e.IsRefusal := by
  unfold makeDirectory make at failed
  split at failed
  · rename_i located
    cases failed
    exact locate_isRefusal absent located
  · cases failed
    exact ⟨_, _, rfl⟩
  · exact nomatch failed

theorem write_isRefusal {s : String} {content : Bytes} (absent : '\x00' ∉ s.toList)
    (failed : t.write s content = .error e t') : e.IsRefusal := by
  unfold write at failed
  split at failed
  · rename_i located
    cases failed
    exact locate_isRefusal absent located
  · cases failed
    exact ⟨_, _, rfl⟩
  · exact nomatch failed
  · dsimp only at failed
    split at failed
    · exact nomatch failed
    · cases failed
      exact ⟨_, _, rfl⟩

theorem isDirectory_isRefusal {s : String} (failed : t.isDirectory s = .error e) : e.IsRefusal := by
  unfold isDirectory status? at failed
  split at failed <;> cases failed
  exact ⟨_, _, rfl⟩

theorem ensureDirectory_isRefusal {p : Path} (absent : '\x00' ∉ p.text.toList)
    (failed : t.ensureDirectory p = .error e t') : e.IsRefusal := by
  unfold ensureDirectory at failed
  split at failed
  · exact nomatch failed
  · cases failed
    exact ⟨_, _, rfl⟩
  · rename_i made
    obtain ⟨reason, path, never⟩ := makeDirectory_isRefusal absent made
    exact nomatch never
  · rename_i e' t₁ _ _ made
    split at failed
    · exact nomatch failed
    · cases failed
      exact makeDirectory_isRefusal absent made
    · rename_i asked
      cases failed
      exact isDirectory_isRefusal asked

theorem ensureDirectories_isRefusal {anchor : Anchor} {parts : List String}
    (absent : '\x00' ∉ (⟨anchor, parts.reverse⟩ : Path).text.toList)
    (failed : t.ensureDirectories anchor parts = .error e t') : e.IsRefusal := by
  induction parts generalizing t t' with
  | nil => exact ensureDirectory_isRefusal absent failed
  | cons part above ih =>
    have upper : '\x00' ∉ (⟨anchor, above.reverse⟩ : Path).text.toList := by
      have parent := Path.null_notMem_parent absent
      simpa [Path.parent] using parent
    rw [ensureDirectories] at failed
    split at failed
    · split at failed
      · exact ensureDirectory_isRefusal absent failed
      · rename_i made
        cases failed
        exact ih upper made
    · exact ensureDirectory_isRefusal absent failed

theorem ensurePath_isRefusal {p : Path} (absent : '\x00' ∉ p.text.toList)
    (failed : t.ensurePath p = .error e t') : e.IsRefusal := by
  refine ensureDirectories_isRefusal ?_ failed
  rwa [List.reverse_reverse]

theorem ensurePath_null {p : Path} (null : '\x00' ∈ p.text.toList) :
    t.ensurePath p = .error .nullCharacter t := by
  have refused : t.makeDirectory p.text = .error .nullCharacter t := by
    rw [makeDirectory, make, locate_null null]
  have ensured : t.ensureDirectory p = .error .nullCharacter t := by
    rw [ensureDirectory, refused]
  obtain ⟨anchor, parts⟩ := p
  unfold ensurePath
  dsimp only
  generalize back : parts.reverse = above
  obtain rfl : parts = above.reverse := by rw [← back, List.reverse_reverse]
  cases above with
  | nil => exact ensured
  | cons part above =>
    rw [ensureDirectories, refused]
    exact ensured

theorem putOutput_isRefusal {directory : Path} {o : OutputFile}
    (absent : '\x00' ∉ (directory.child o.path).text.toList)
    (failed : t.putOutput directory o = .error e t') : e.IsRefusal := by
  unfold putOutput at failed
  split at failed
  · rename_i made
    cases failed
    exact ensurePath_isRefusal (Path.null_notMem_parent absent) made
  · exact write_isRefusal absent failed

theorem putOutputs_isRefusal {directory : Path} {outputs : Outputs}
    (absent : ∀ o ∈ outputs, '\x00' ∉ (directory.child o.path).text.toList)
    (failed : t.putOutputs directory outputs = .error e t') : e.IsRefusal := by
  induction outputs generalizing t with
  | nil => exact nomatch failed
  | cons o rest ih =>
    rw [putOutputs] at failed
    split at failed
    · rename_i here
      cases failed
      exact putOutput_isRefusal (absent o List.mem_cons_self) here
    · exact ih (fun other member => absent other (List.mem_cons_of_mem o member)) failed

end Files.FileTree

theorem IsConfined.null_notMem {path : String} (confined : IsConfined path) :
    '\x00' ∉ path.toList := by
  intro null
  rw [← join_split Path.slash_single path] at null
  rcases mem_join null with slash | ⟨name, member, inside⟩
  · exact absurd slash (by decide)
  · exact (confined.valid name member).noNull inside

theorem IsConfined.null_mem_parent {path : String} (confined : IsConfined path) {directory : Path}
    (null : '\x00' ∈ directory.text.toList) :
    '\x00' ∈ (directory.child path).parent.text.toList := by
  obtain ⟨part, member, inside⟩ := Path.null_mem_text.mp null
  refine Path.null_mem_text.mpr ⟨part, ?_, inside⟩
  rw [confined.child, Path.parent, List.dropLast_append_of_ne_nil confined.nonempty]
  exact List.mem_append_left _ member

/-- Confined files are written below a directory until the system refuses one. Where they are not written
for another reason, none was. -/
theorem putOutputs_confined {directory : Path} {outputs : Outputs} {t t' : FileTree} {e : FileError}
    (confined : ∀ o ∈ outputs, IsConfined o.path) (failed : t.putOutputs directory outputs = .error e t') :
    e.IsRefusal ∨ t' = t := by
  by_cases null : '\x00' ∈ directory.text.toList
  · cases outputs with
    | nil => exact nomatch failed
    | cons o rest =>
      have parent := (confined o List.mem_cons_self).null_mem_parent null
      rw [FileTree.putOutputs, FileTree.putOutput, FileTree.ensurePath_null parent] at failed
      cases failed
      exact .inr rfl
  · refine .inl (FileTree.putOutputs_isRefusal (fun o member => ?_) failed)
    exact Path.null_notMem_child null (confined o member).null_notMem

/-- A toolchain that leaves the files alone and gives no path with a null character. -/
structure Toolchain.IsHarmless (t : Toolchain) : Prop where
  files : ∀ environment files, Build.Keeps (· = files) (t environment)
  paths : ∀ environment outputs w w', t environment w = .ok (some outputs) w' →
    ∀ o ∈ outputs, '\x00' ∉ o.path.toList

namespace Compiler

variable {c : Compiler} {source directory : Path} {w : Workspace}

/-- What a compilation has come to when it begins to write: its environment, the class, and the
generated files. -/
structure Writes (c : Compiler) (source : Path) (w : Workspace) (environment : Environment)
    (plugin : PluginClass) (outputs : Outputs) (w' : Workspace) : Prop where
  made : c.environmentIn source w = .ok environment
  produced : guarded source (c.produce source environment)
    ((begun source w).opened environment.configuration) = .ok (plugin, outputs) w'
  entry : (outputs.get? (Target.bytecode.artifactPath plugin.qualifiedName)).isSome

/-- The system refuses to write one of the generated files. -/
inductive FailsInWriting (c : Compiler) (source directory : Path) (w : Workspace) : Failure → Prop
  | refused {environment : Environment} {plugin : PluginClass} {outputs : Outputs}
    {w₁ w₂ : Workspace} {reason : Errno} {path : String}
    (writes : c.Writes source w environment plugin outputs w₁)
    (failed : outputs.forM (writeOutput directory) w₁ = .error (.file (.refused reason path)) w₂) :
    FailsInWriting c source directory w (.file (.refused reason path))

theorem deliver_error {environment : Environment} {e : Failure} {w' : Workspace}
    (keeps : Build.Keeps (· = w.files) (c.produce source environment))
    (failed : c.deliver source directory environment w = .error e w') :
    w'.files = w.files ∨ ∃ plugin outputs w₁,
      guarded source (c.produce source environment) w = .ok (plugin, outputs) w₁ ∧
      (outputs.get? (Target.bytecode.artifactPath plugin.qualifiedName)).isSome ∧
      w₁.files = w.files ∧ outputs.forM (writeOutput directory) w₁ = .error e w' := by
  have keeps := keeps.guarded source
  cases produced : guarded source (c.produce source environment) w with
  | error e₁ w₁ =>
    unfold deliver at failed
    rw [Build.bind_run, produced] at failed
    cases failed
    exact .inl (keeps.of_error rfl produced)
  | ok result w₁ =>
    obtain ⟨plugin, outputs⟩ := result
    have same : w₁.files = w.files := keeps.of_ok rfl produced
    cases there : outputs.get? (Target.bytecode.artifactPath plugin.qualifiedName) with
    | none =>
      unfold deliver at failed
      rw [Build.bind_run, produced] at failed
      simp only [there] at failed
      cases failed
      exact .inl same
    | some o =>
      rw [deliver_run c produced there] at failed
      split at failed
      · exact nomatch failed
      · rename_i wrote
        cases failed
        exact .inr ⟨plugin, outputs, w₁, rfl, by rw [there]; rfl, same, wrote⟩

theorem compile_error_cases (harmless : ∀ environment, Build.Keeps (· = w.files) (c.toolchain environment))
    {e : Failure} {w' : Workspace} (failed : c.compile source directory w = .error e w') :
    w'.files = w.files ∨ ∃ environment plugin outputs w₁ w₂,
      c.Writes source w environment plugin outputs w₁ ∧ w₁.files = w.files ∧
      outputs.forM (writeOutput directory) w₁ = .error e w₂ ∧ w'.files = w₂.files := by
  rw [compile_eq] at failed
  cases made : c.environmentIn source w with
  | error e₁ =>
    rw [made] at failed
    cases failed
    exact .inl rfl
  | ok environment =>
    rw [made] at failed
    dsimp only at failed
    cases delivered : c.deliver source directory environment
        ((begun source w).opened environment.configuration) with
    | ok compiled w₂ =>
      rw [delivered] at failed
      exact nomatch failed
    | error e₂ w₂ =>
      rw [delivered] at failed
      cases failed
      have keeps := c.produce_keeps source (harmless environment)
      rcases deliver_error (w := (begun source w).opened environment.configuration) keeps delivered with
        kept | ⟨plugin, outputs, w₁, produced, entry, same, wrote⟩
      · exact .inl ((w₂.leave_files _).trans kept)
      · exact .inr ⟨environment, plugin, outputs, w₁, w₂, ⟨made, produced, entry⟩, same, wrote,
          w₂.leave_files _⟩

theorem Writes.isConfined {b : Backend} {classpath : List Path} {template : Template}
    {environment : Environment} {plugin : PluginClass} {outputs : Outputs} {w₁ : Workspace}
    (writes : (scriptCompiler b classpath template).Writes source w environment plugin outputs w₁) :
    ∀ o ∈ outputs, IsConfined o.path := by
  obtain ⟨made, produced, -⟩ := writes
  obtain ⟨root, unit, -, loaded, rfl⟩ := environmentIn_eq_ok made
  obtain ⟨ran, script⟩ := produce_ok (guarded_ok produced)
  replace script : unit.plugin = some plugin := script
  let configuration := (scriptCompiler b classpath template).configuration source root
  replace ran : scriptToolchain b ⟨w.disposed.length, configuration, [unit], .ofEntries configuration.classpath⟩
    ((begun source w).opened configuration) = .ok (some outputs) w₁ := ran
  obtain ⟨tree, m, parsed, clean, -, generated⟩ := scriptToolchain_ok rfl script ran
  have sound : plugin.IsSound := by
    rw [plugin_of_ofBytes (unitAt_eq_ok.mp loaded).2 script, parsed]
    exact isSound_ofScript _ clean
  exact fun o member => generated.isConfined sound member

def constantToolchain (outputs : Outputs) : Toolchain := fun _ => pure (some outputs)

theorem constantToolchain_isHarmless {outputs : Outputs}
    (clean : ∀ o ∈ outputs, '\x00' ∉ o.path.toList) : (constantToolchain outputs).IsHarmless := by
  constructor
  · intro environment files w before
    exact before
  · intro environment outputs' w w' done
    cases done
    exact clean

def emptyScript : Workspace :=
  ⟨⟨[(["in"], .directory), (["in", "a.plugin.py"], .file [])], [], .plain⟩, [], [], [], []⟩

/-- A compilation that fails leaves the files as they were, unless the system refuses to write one of
the generated files. That holds of the toolchain for scripts, and of any other that leaves the files
alone, where neither the paths that it gives nor the output directory have a null character. -/
theorem compile_fails_untouched (c : Compiler) (source directory : Path) (w : Workspace)
    (harmless : (∃ b, c.toolchain = scriptToolchain b) ∨
      c.toolchain.IsHarmless ∧ '\x00' ∉ directory.text.toList) (e : Failure) (w' : Workspace)
    (failed : c.compile source directory w = .error e w') :
    c.FailsInWriting source directory w e ∨ w'.files = w.files := by
  have keeps : ∀ environment, Build.Keeps (· = w.files) (c.toolchain environment) := by
    intro environment
    rcases harmless with ⟨b, script⟩ | ⟨other, -⟩
    · rw [script]
      exact .of_reads (scriptToolchain_reads b environment)
    · exact other.files environment w.files
  rcases compile_error_cases keeps failed with
    same | ⟨environment, plugin, outputs, w₁, w₂, writes, same, wrote, after⟩
  · exact .inr same
  obtain ⟨log, run⟩ := writeOutputs_run directory outputs w₁
  cases put : w₁.files.putOutputs directory outputs with
  | ok _ t =>
    rw [put] at run
    exact nomatch run.symm.trans wrote
  | error fault t =>
    rw [put] at run
    obtain ⟨rfl, rfl⟩ := EStateM.Result.error.inj (run.symm.trans wrote)
    -- The system refuses a file, or nothing was written: with a null character in the output directory,
    -- the first of confined files is not, and without one in any path there is no other reason.
    have refused : fault.IsRefusal ∨ t = w₁.files := by
      rcases harmless with ⟨b, script⟩ | ⟨other, absent⟩
      · obtain ⟨classpath, template, toolchain⟩ := c
        obtain rfl : toolchain = scriptToolchain b := script
        exact putOutputs_confined (writes.isConfined (b := b)) put
      · have clean := other.paths _ _ _ _ (produce_ok (guarded_ok writes.produced)).1
        exact .inl (FileTree.putOutputs_isRefusal
          (fun o member => Path.null_notMem_child absent (clean o member)) put)
    rcases refused with ⟨reason, path, rfl⟩ | untouched
    · exact .inl (.refused writes wrote)
    · exact .inr (after.trans (untouched.trans same))

/-- A compilation with generated files among which the file of the class is missing. -/
theorem missing_artifact_untouched : ∃ w',
    (⟨[], .plugin, constantToolchain [⟨"b.pyc", [0]⟩]⟩ : Compiler).compile
      (Path.ofString "in/a.plugin.py") (Path.ofString "out") emptyScript =
        .error (.compilation ⟨.artifactMissing "A_plugin.pyc", Path.ofString "in/a.plugin.py"⟩) w' ∧
    w'.files = emptyScript.files := by
  obtain ⟨w', failed⟩ := failureOf?_eq_some
    (r := (⟨[], .plugin, constantToolchain [⟨"b.pyc", [0]⟩]⟩ : Compiler).compile
      (Path.ofString "in/a.plugin.py") (Path.ofString "out") emptyScript)
    (e := .compilation ⟨.artifactMissing "A_plugin.pyc", Path.ofString "in/a.plugin.py"⟩)
    (by decide +kernel)
  refine ⟨w', failed, ?_⟩
  have harmless : (constantToolchain [⟨"b.pyc", [0]⟩]).IsHarmless :=
    constantToolchain_isHarmless (by decide)
  rcases compile_fails_untouched _ _ _ _ (.inr ⟨harmless, by decide +kernel⟩) _ w' failed with
    writing | same
  · exact nomatch writing
  · exact same

/-- A file that stands on its own path is written before a null character in the output directory
comes up, which the system has no part in. -/
theorem null_character_after_write :
    let c : Compiler := ⟨[], .plugin, constantToolchain [⟨"/kept", [0]⟩, ⟨"A_plugin.pyc", [0]⟩]⟩
    let ending := c.compile (Path.ofString "in/a.plugin.py") (Path.ofString "out\x00") emptyScript
    c.toolchain.IsHarmless ∧ (∃ w', ending = .error (.file .nullCharacter) w') ∧
    (∀ source directory w, ¬ c.FailsInWriting source directory w (.file .nullCharacter)) ∧
    emptyScript.files.get? ["kept"] = none ∧
    (finalState ending).files.get? ["kept"] = some (.file [0]) := by
  intro c ending
  refine ⟨constantToolchain_isHarmless (by decide), failureOf?_eq_some (by decide +kernel), ?_,
    by decide, by decide +kernel⟩
  intro source directory w writing
  cases writing

end Compiler

end PluginBuild
