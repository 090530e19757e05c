import PluginBuild.Proofs.Revisits
import PluginBuild.Proofs.Surroundings

/-!
Batches over lists of scripts. Where its output is apart from its input, a batch comes to the scripts that
a search finds before any of them is compiled, whatever the compilations write; so it is the batch over the
list of these scripts.
-/

namespace PluginBuild

open PluginBuild.Files PluginBuild.Text

structure AreApart (p q : Place) : Prop where
  left : ¬ p <+: q
  right : ¬ q <+: p

instance (p q : Place) : Decidable (AreApart p q) :=
  decidable_of_iff (¬ p <+: q ∧ ¬ q <+: p) ⟨fun ⟨a, b⟩ => ⟨a, b⟩, fun ⟨a, b⟩ => ⟨a, b⟩⟩

theorem AreApart.outside {p q below : Place} (apart : AreApart p q) (inside : q <+: below) :
    ¬ p <+: below := fun other =>
  (List.prefix_or_prefix_of_prefix other inside).elim apart.left apart.right

section
variable {b : Backend} {classpath : List Path} {template : Template} {output : Path} {root : Place}

theorem step_untouching {top : Place} {start : FileTree} (normal : output.IsNormal)
    (offers : start.Offers output root) (apart : AreApart root top) :
    Untouching top start (Batch.step (scriptCompiler b classpath template) output) := by
  intro source results w results' w' before ran
  rw [step_run] at ran
  cases ended : (scriptCompiler b classpath template).compile source output w with
  | error e w₁ =>
    rw [ended] at ran
    exact nomatch ran
  | ok compiled w₁ =>
    rw [ended] at ran
    cases ran
    obtain ⟨made, outcome, put, -⟩ := compile_ok_run ended
    have offers₁ : w.files.Offers output root :=
      ⟨before.sound, before.unlinked, FileTree.locate_grow_directory offers.leads before.grows⟩
    obtain ⟨offers', grows, -, shows⟩ :=
      putOutputs_get? normal offers₁ (confined_of_outcome outcome) put
    refine ⟨grows, offers'.sound, offers'.unlinked, fun q below => ?_⟩
    rw [shows, Outputs.entryAt_outside (apart.outside below), Option.none_or]

end

namespace Batch

theorem finish_of_write {manifestPath : Path} {results : List Compiled} {w : Workspace}
    {files : FileTree}
    (wrote : w.files.write manifestPath.text (manifestContent (manifest results)) = .ok () files) :
    ∃ w', finish manifestPath (.ok ((), results) w) = .ok results w' ∧ w'.files = files := by
  unfold finish
  dsimp only
  rw [wrote]
  exact ⟨_, rfl, rfl⟩

/-- A batch over a list of scripts. -/
def runOver (batch : Batch) (sources : List Path) (output manifestPath : Path) (extra : List Path) :
    Build (List Compiled) :=
  batch.visiting sources.forM output manifestPath extra

section
variable {b : Backend} {template : Template} {context : ExecutionContext} {suffix : String} {depth : Nat}
  {input output manifestPath : Path} {extra classpath : List Path} {root : Place} {start : FileTree}
  {sources : List Path} {mades : List (PluginClass × Outputs)} {results : List Compiled}
  {t : FileTree} {w w₀ w' : Workspace}

theorem step_retraces (b : Backend) (classpath : List Path) (template : Template) (suffix : String)
    (depth : Nat) (normal : output.IsNormal) (normal' : input.IsNormal) (offers : start.Offers output root)
    (apart : AreApart root (start.placeOf input))
    (reaches : start.Reaches input.text (start.placeOf input))
    (untouched : IsUntouched (start.placeOf input) start w.files) :
    Retraces (step (scriptCompiler b classpath template) output)
      ((Search.mk input suffix depth).find start) [] w
      (((Search.mk input suffix depth).visit (step (scriptCompiler b classpath template) output)).run
        [] w) :=
  Search.visit_retraces ⟨input, suffix, depth⟩ offers.sound offers.unlinked
    (step_untouching normal offers apart) normal' untouched reaches

/-- A batch whose output is apart from its input is the batch over the scripts that a search found before,
also in a tree where the scripts are as they were then. -/
theorem run_eq_runOver {started : FileTree} (normal : output.IsNormal) (normal' : input.IsNormal)
    (offers : start.Offers output root) (apart : AreApart root (start.placeOf input))
    (found : (Search.mk input suffix depth).find start = .ok sources)
    (assembled : assembleClasspath context extra w = .ok classpath w₀)
    (made : w.files.ensureDirectory output = .ok () started)
    (untouched : IsUntouched (start.placeOf input) start started) :
    (Batch.mk template context (scriptToolchain b) suffix depth).run input output manifestPath extra w =
      (Batch.mk template context (scriptToolchain b) suffix depth).runOver sources output manifestPath
        extra w := by
  have reaches := Search.reaches_of_find offers.unlinked normal' found
  have retraces := step_retraces b classpath template suffix depth normal normal' offers apart reaches
    (w := { Batch.started classpath w₀ with files := started }) untouched
  rw [found] at retraces
  rw [run_eq_visiting, runOver, visiting_of_assembled _ _ assembled made,
    visiting_of_assembled _ _ assembled made]
  exact congrArg (finish manifestPath) retraces

theorem runOver_of_run (sound : w.files.IsSound) (unlinked : w.files.IsUnlinked)
    (normal : output.IsNormal) (normal' : input.IsNormal)
    (apart : AreApart (w.files.placeOf output) (w.files.placeOf input))
    (done : (Batch.mk template context (scriptToolchain b) suffix depth).run input output manifestPath
      extra w = .ok results w') : ∃ start sources, w.files.ensureDirectory output = .ok () start ∧
      (Search.mk input suffix depth).find start = .ok sources ∧
      (Batch.mk template context (scriptToolchain b) suffix depth).runOver sources output manifestPath
        extra w = .ok results w' := by
  rcases run_cases _ input output manifestPath extra w with
    ⟨e, w₁, failed, -⟩ | ⟨classpath, w₀, start, w₁, assembled, made, files, ran⟩
  · exact nomatch failed.symm.trans done
  subst files
  obtain ⟨w₂, visited, -⟩ := finish_ok (ran.symm.trans done)
  have ensured := FileTree.ensures_of_ok sound unlinked normal made
  rw [← FileTree.placeOf_of_current ensured.grows.current input] at apart
  have reaches := Search.reaches_of_visit ensured.unlinked normal' visited
  have untouched : IsUntouched (w₁.files.placeOf input) w₁.files w₁.files :=
    .refl _ ensured.sound ensured.unlinked
  have retraces := step_retraces b classpath template suffix depth normal normal' ensured.offers apart
    reaches untouched
  rw [show ((Search.mk input suffix depth).visit
    (step (scriptCompiler b classpath template) output)).run [] w₁ = _ from visited] at retraces
  obtain ⟨sources, found, -⟩ := retraces.ok
  refine ⟨w₁.files, sources, made, found, ?_⟩
  rw [← run_eq_runOver normal normal' ensured.offers apart found assembled made untouched]
  exact done

theorem runOver_fills
    (done : (Batch.mk template context (scriptToolchain b) suffix depth).runOver sources output
      manifestPath extra w = .ok results w') :
    ∃ classpath w₀ start mades t, assembleClasspath context extra w = .ok classpath w₀ ∧
      w.files.ensureDirectory output = .ok () start ∧
      Fills b classpath template output start sources mades t ∧
      results = mades.map (fun made => compiledOf output made.1) ∧
      t.write manifestPath.text (manifestContent (manifest results)) = .ok () w'.files := by
  rcases visiting_cases _ sources.forM output manifestPath extra w with
    ⟨e, w₁, failed, -⟩ | ⟨classpath, w₀, start, w₁, assembled, made, files, ran⟩
  · exact nomatch failed.symm.trans done
  · obtain ⟨w₂, visited, wrote⟩ := finish_ok (ran.symm.trans done)
    obtain ⟨mades, fills, same⟩ := fills_of_steps visited
    exact ⟨classpath, w₀, start, mades, w₂.files, assembled, made, files ▸ fills, same, wrote⟩

theorem runOver_of_fills (suffix : String) (depth : Nat) {files : FileTree}
    (assembled : assembleClasspath context extra w = .ok classpath w₀)
    (made : w.files.ensureDirectory output = .ok () start)
    (fills : Fills b classpath template output start sources mades t)
    (wrote : t.write manifestPath.text
      (manifestContent (manifest (mades.map fun made => compiledOf output made.1))) = .ok () files) :
    ∃ w', (Batch.mk template context (scriptToolchain b) suffix depth).runOver sources output manifestPath
      extra w = .ok (mades.map fun made => compiledOf output made.1) w' ∧ w'.files = files := by
  obtain ⟨w₂, same, steps⟩ := steps_of_fills fills []
    (w := { started classpath w₀ with files := start }) rfl
  obtain ⟨w', ended, files'⟩ := finish_of_write (w := w₂) (same.symm ▸ wrote)
  refine ⟨w', ?_, files'⟩
  rw [runOver, visiting_of_assembled _ _ assembled made]
  exact (congrArg (finish manifestPath) steps).trans ended

end

end Batch

end PluginBuild
