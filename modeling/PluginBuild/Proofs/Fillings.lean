import PluginBuild.Proofs.Batches
import PluginBuild.Proofs.Overlay
import PluginBuild.Proofs.Persistence

/-!
A batch as a change of the files alone. Each script comes to its class and its generated files in the
files that those before it left, and these files are written before the next script is looked at.
-/

namespace PluginBuild

open PluginBuild.Files PluginBuild.Script PluginBuild.Text

theorem Files.FileTree.Ensures.offers {t t' : FileTree} {p : Path} (ensured : t.Ensures p t') :
    t'.Offers p (t.placeOf p) := ⟨ensured.sound, ensured.unlinked, ensured.leads⟩

/-- The class that a source becomes, if it can be read and is a script. -/
def classAt (template : Template) (files : FileTree) (source : Path) : Option PluginClass :=
  match unitAt template files (files.absolute source) with
  | .error _ => none
  | .ok unit => unit.plugin

def compiledOf (output : Path) (c : PluginClass) : Compiled :=
  ⟨c.qualifiedName, output.child (Target.bytecode.artifactPath c.qualifiedName)⟩

section
variable {b : Backend} {classpath : List Path} {template : Template} {output source : Path}

theorem generated_of_outcome {files : FileTree} {c : PluginClass} {outputs : Outputs}
    (outcome : scriptOutcome b classpath template files source = .ok (c, outputs)) :
    classAt template files source = some c ∧ c.IsSound ∧ ∃ unit m, IsGenerated b unit c m outputs := by
  unfold scriptOutcome at outcome
  split at outcome
  · exact nomatch outcome
  · rename_i root here
    obtain rfl := FileTree.absolute_of_absolute? here
    split at outcome
    · exact nomatch outcome
    · rename_i unit loaded
      cases product : unit.product b classpath template files source with
      | error e =>
        rw [product] at outcome
        exact nomatch outcome
      | ok made =>
        rw [product] at outcome
        cases outcome
        obtain ⟨tree, m, script, parsed, met, -, rfl, -⟩ := product_ok b classpath template source product
        have clean : declarationFaults false tree.body = [] := by
          have clean := (Demand.isMet_eq_true.mp met).1
          simp only [demandOf, isClean, Bool.and_eq_true, List.isEmpty_iff] at clean
          exact clean.1.1
        have sound : c.IsSound := by
          rw [plugin_of_ofBytes (unitAt_eq_ok.mp loaded).2 script, parsed]
          exact isSound_ofScript _ clean
        refine ⟨?_, sound, unit, m, isGenerated_scriptFiles b unit c m⟩
        rw [classAt, loaded]
        exact script

theorem confined_of_outcome {files : FileTree} {made : PluginClass × Outputs}
    (outcome : scriptOutcome b classpath template files source = .ok made) :
    ∀ o ∈ made.2, IsConfined o.path := by
  obtain ⟨-, sound, unit, m, generated⟩ := generated_of_outcome outcome
  exact fun o member => generated.isConfined sound member

theorem compile_ok_run {compiled : Compiled} {w w' : Workspace}
    (done : (scriptCompiler b classpath template).compile source output w = .ok compiled w') :
    ∃ made, scriptOutcome b classpath template w.files source = .ok made ∧
      w.files.putOutputs output made.2 = .ok () w'.files ∧ compiled = compiledOf output made.1 := by
  have ran := compile_run b classpath template source output w
  cases outcome : scriptOutcome b classpath template w.files source with
  | error e =>
    rw [outcome] at ran
    obtain ⟨w₁, -, failed⟩ := ran
    exact nomatch failed.symm.trans done
  | ok made =>
    rw [outcome] at ran
    obtain ⟨w₁, after, same, keeps, ended⟩ := ran
    obtain ⟨log, wrote⟩ := writeOutputs_run output made.2 w₁
    rw [ended, wrote, same] at done
    cases put : w.files.putOutputs output made.2 with
    | error e t =>
      rw [put] at done
      exact nomatch done
    | ok _ t =>
      rw [put] at done
      cases done
      exact ⟨made, rfl, by rw [keeps]; exact put, rfl⟩

theorem compile_run_ok {made : PluginClass × Outputs} {w : Workspace} {t : FileTree}
    (outcome : scriptOutcome b classpath template w.files source = .ok made)
    (put : w.files.putOutputs output made.2 = .ok () t) :
    ∃ w', (scriptCompiler b classpath template).compile source output w =
      .ok (compiledOf output made.1) w' ∧ w'.files = t := by
  have ran := compile_run b classpath template source output w
  rw [outcome] at ran
  obtain ⟨w₁, after, same, keeps, ended⟩ := ran
  obtain ⟨log, wrote⟩ := writeOutputs_run output made.2 w₁
  rw [wrote, same, put] at ended
  exact ⟨_, ended, by rw [keeps]⟩

end

/-- Scripts come to their classes and files one after the other, each in the files that those before it
left. -/
inductive Fills (b : Backend) (classpath : List Path) (template : Template) (output : Path) :
    FileTree → List Path → List (PluginClass × Outputs) → FileTree → Prop
  | nil (t : FileTree) : Fills b classpath template output t [] [] t
  | cons {source : Path} {rest : List Path} {made : PluginClass × Outputs}
    {others : List (PluginClass × Outputs)} {t t₁ t' : FileTree}
    (outcome : scriptOutcome b classpath template t source = .ok made)
    (put : t.putOutputs output made.2 = .ok () t₁)
    (next : Fills b classpath template output t₁ rest others t') :
    Fills b classpath template output t (source :: rest) (made :: others) t'

section
variable {b : Backend} {classpath : List Path} {template : Template} {output : Path}
  {sources : List Path} {mades : List (PluginClass × Outputs)} {results : List Compiled}

theorem fills_of_steps {results' : List Compiled} {w w' : Workspace}
    (ran : (sources.forM (Batch.step (scriptCompiler b classpath template) output)).run results w =
      .ok ((), results') w') : ∃ mades, Fills b classpath template output w.files sources mades w'.files ∧
        results' = results ++ mades.map fun made => compiledOf output made.1 := by
  induction sources generalizing results w with
  | nil =>
    cases ran
    exact ⟨[], .nil _, (List.append_nil _).symm⟩
  | cons source rest ih =>
    rw [Build.forM_cons_runState, step_run] at ran
    cases ended : (scriptCompiler b classpath template).compile source output w with
    | error e w₁ =>
      rw [ended] at ran
      exact nomatch ran
    | ok compiled w₁ =>
      rw [ended] at ran
      obtain ⟨made, outcome, put, rfl⟩ := compile_ok_run ended
      obtain ⟨mades, fills, rfl⟩ := ih ran
      exact ⟨made :: mades, .cons outcome put fills, by simp⟩

theorem steps_of_fills {t t' : FileTree} (fills : Fills b classpath template output t sources mades t')
    (results : List Compiled) {w : Workspace} (same : w.files = t) : ∃ w', w'.files = t' ∧
      (sources.forM (Batch.step (scriptCompiler b classpath template) output)).run results w =
        .ok ((), results ++ mades.map fun made => compiledOf output made.1) w' := by
  induction fills generalizing results w with
  | nil => exact ⟨w, same, by rw [List.map_nil, List.append_nil]; rfl⟩
  | @cons source rest made others t t₁ t' outcome put next ih =>
    subst same
    obtain ⟨w₁, ended, same₁⟩ := compile_run_ok outcome put
    rw [Build.forM_cons_runState, step_run, ended]
    obtain ⟨w', same', ran⟩ := ih (results ++ [compiledOf output made.1]) (w := { w₁ with
      log := w₁.log ++ [⟨.info, s!"compiled {source} -> {made.1.qualifiedName}"⟩] }) same₁
    rw [List.append_assoc, List.singleton_append] at ran
    exact ⟨w', same', ran⟩

/-- All files of the scripts of a batch, in the order in which they are written. -/
def allOutputs (mades : List (PluginClass × Outputs)) : Outputs := mades.flatMap (·.2)

theorem Fills.get? {root : Place} {t t' : FileTree} (normal : output.IsNormal)
    (fills : Fills b classpath template output t sources mades t') (offers : t.Offers output root) :
    t'.Offers output root ∧ t.Grows t' ∧ t'.HasRoomFor output (allOutputs mades) ∧
      ∀ place, t'.get? place =
        (Outputs.entryAt root (allOutputs mades) place).or (t.get? place) := by
  induction fills with
  | nil => exact ⟨offers, .refl _, nofun, fun _ => rfl⟩
  | @cons source rest made others t t₁ t' outcome put next ih =>
    obtain ⟨offers₁, grows₁, room₁, shows₁⟩ :=
      putOutputs_get? normal offers (confined_of_outcome outcome) put
    obtain ⟨offers', grows', room', shows'⟩ := ih offers₁
    refine ⟨offers', grows₁.trans grows', ?_, fun place => ?_⟩
    · intro o member
      rcases List.mem_append.mp member with here | later
      · exact room₁.grow grows' o here
      · exact room' o later
    · rw [shows', shows₁, ← Option.or_assoc, ← Outputs.entryAt_append]
      rfl

end

end PluginBuild
