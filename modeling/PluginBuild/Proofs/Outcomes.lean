import PluginBuild.Proofs.Compilation
import PluginBuild.Proofs.Passing
import PluginBuild.Proofs.Verdict

/-!
What a compilation comes to before it writes anything, as a function of the files that it reads. With
a sink that takes every diagnostic, the log and what was delivered before make no difference.
-/

namespace PluginBuild

open PluginBuild.Files PluginBuild.Script PluginBuild.Text

/-- A task that, begun in a workspace that agrees with a certain one, ends in such a workspace and in a
certain way. -/
def Comes {α : Type} (start : Workspace) (task : Build α) (outcome : Except Failure α) : Prop :=
  ∀ w, start.Agrees w → ∃ w', start.Agrees w' ∧ task w = match outcome with
    | .ok a => .ok a w'
    | .error e => .error e w'

namespace Comes

variable {α β : Type} {start : Workspace} {task : Build α} {outcome : Except Failure α}

theorem of_reads (reads : OnlyReads task) (ends : ∀ w : Workspace, w.files = start.files →
    ∃ w', task w = match outcome with
      | .ok a => .ok a w'
      | .error e => .error e w') : Comes start task outcome := by
  intro w agrees
  obtain ⟨w', ended⟩ := ends w agrees.files
  have same := reads.agrees w
  rw [ended] at same
  cases outcome with
  | ok a => exact ⟨w', agrees.trans same, ended⟩
  | error e => exact ⟨w', agrees.trans same, ended⟩

theorem pure (a : α) : Comes start (Pure.pure a) (.ok a) := fun w agrees => ⟨w, agrees, rfl⟩

theorem throw (e : Failure) : Comes start (throw e : Build α) (.error e) :=
  fun w agrees => ⟨w, agrees, rfl⟩

theorem record (level : LogLevel) (message : String) :
    Comes start (Build.record level message) (.ok ()) :=
  of_reads (.record level message) fun w _ => ⟨{ w with log := w.log ++ [⟨level, message⟩] }, rfl⟩

theorem bind {next : α → Build β} {later : α → Except Failure β} (first : Comes start task outcome)
    (second : ∀ a, outcome = .ok a → Comes start (next a) (later a)) :
    Comes start (task >>= next) (outcome >>= later) := by
  intro w agrees
  obtain ⟨w₁, agrees₁, ran⟩ := first w agrees
  rw [Build.bind_run, ran]
  cases outcome with
  | error e => exact ⟨w₁, agrees₁, rfl⟩
  | ok a => exact second a rfl w₁ agrees₁

theorem after {first : Build β} {b : β} {next : β → Build α} (always : Comes start first (.ok b))
    (later : Comes start (next b) outcome) : Comes start (first >>= next) outcome := by
  intro w agrees
  obtain ⟨w₁, agrees₁, ran⟩ := always w agrees
  rw [Build.bind_run, ran]
  exact later w₁ agrees₁

theorem stop {first : Build β} {e : Failure} (fails : Comes start first (.error e))
    (next : β → Build α) : Comes start (first >>= next) (.error e) := by
  intro w agrees
  obtain ⟨w₁, agrees₁, ran⟩ := fails w agrees
  exact ⟨w₁, agrees₁, by rw [Build.bind_run, ran]⟩

theorem deliver {sink : Sink} (takes : ∀ earlier d, ∃ records, sink.take earlier d = .ok records)
    (d : Diagnostic) : Comes start (sink.deliver d) (.ok ()) := by
  refine of_reads (.deliver sink d) fun w _ => ?_
  obtain ⟨records, taken⟩ := takes w.diagnostics d
  rw [Sink.deliver_run, taken]
  exact ⟨{ w with diagnostics := w.diagnostics ++ [d], log := w.log ++ records }, rfl⟩

theorem forM {xs : List α} {each : α → Build Unit} (all : ∀ x, Comes start (each x) (.ok ())) :
    Comes start (xs.forM each) (.ok ()) := by
  induction xs with
  | nil => exact pure ()
  | cons x rest ih => exact after (all x) ih

theorem guarded (comes : Comes start task outcome) (source : Path) :
    Comes start (PluginBuild.guarded source task) (outcome.mapError (guardedFailure source)) := by
  intro w agrees
  obtain ⟨w', agrees', ran⟩ := comes w agrees
  refine ⟨w', agrees', ?_⟩
  rw [guarded_run, ran]
  cases outcome <;> rfl

end Comes

def codeChecked (fileName : String) (m : Module) : Except Failure Unit :=
  match Code.check m with
  | .error e => .error (.toolchain (.generation fileName e))
  | .ok _ => .ok ()

/-- The generated files of one source. -/
def SourceUnit.generated (b : Backend) (template : Template) (unit : SourceUnit) (tree : Module) :
    Except Failure Outputs :=
  let fileName := unit.path.text
  match unit.plugin with
  | none => do
    codeChecked fileName tree
    return [⟨Target.bytecode.artifactPath (plainName unit.path),
      compiledFile Target.bytecode unit.bytes (b fileName tree)⟩]
  | some plugin =>
    match assemble tree plugin template with
    | .error .tooDeep => .error (.toolchain (.assembly unit.path))
    | .error e => .error (.assembly e)
    | .ok m => do
      codeChecked fileName m
      return scriptFiles b unit plugin m

/-- What the toolchain makes of one source. -/
def SourceUnit.result (b : Backend) (classpath : List Path) (template : Template) (files : FileTree)
    (unit : SourceUnit) : Except Failure (Option Outputs) := do
  if ← unit.passes classpath template files then
    match unit.tree with
    | .error _ => return none
    | .ok tree => return some (← unit.generated b template tree)
  return none

section
variable {c : Configuration} (takes : ∀ earlier d, ∃ records, c.sink.take earlier d = .ok records)
include takes

theorem comes_checkCode (unit : SourceUnit) (tree : Module) (start : Workspace) (fileName : String)
    (m : Module) : Comes start (checkCode ⟨c, unit, tree⟩ fileName m) (codeChecked fileName m) := by
  unfold checkCode codeChecked
  cases Code.check m with
  | error e => exact .throw _
  | ok warnings => exact .forM fun w => .deliver takes _

theorem comes_generate (b : Backend) (unit : SourceUnit) (tree : Module) (start : Workspace) :
    Comes start (generate b Target.bytecode ⟨c, unit, tree⟩ []) (unit.generated b c.template tree) := by
  unfold generate SourceUnit.generated
  cases unit.plugin with
  | none => exact .bind (comes_checkCode takes _ _ _ _ _) fun _ _ => .pure _
  | some plugin =>
    dsimp only
    cases assemble tree plugin c.template with
    | error e => cases e <;> exact .throw _
    | ok m => exact .bind (comes_checkCode takes _ _ _ _ _) fun _ _ => .pure _

theorem comes_analyzeAll (unit : SourceUnit) {symbols : SymbolIndex} {start : Workspace}
    (entries : symbols.entries = c.classpath) (remembers : Remembers start.files symbols.archives) :
    Comes start (analyzeAll c symbols [unit]) (do
      let passes ← unit.passes c.classpath c.template start.files
      match unit.tree with
      | .error _ => return ([], true)
      | .ok tree => return if passes then ([⟨c, unit, tree⟩], false) else ([], true)) := by
  refine .of_reads (analyzeAll_reads c symbols [unit]) fun w same => ?_
  rw [← same] at remembers ⊢
  have ended := isAnalyzed c unit entries remembers
  rw [analyzeAll_cons_run]
  generalize analyze c unit symbols w = r at ended
  cases ended with
  | @passed symbols' w' met =>
    rw [met]
    cases parsed : unit.tree with
    | error report =>
      rw [SourceUnit.passes, parsed] at met
      exact nomatch met
    | ok tree => exact ⟨w', rfl⟩
  | @marked errors symbols' w' unmet some =>
    rw [unmet]
    refine ⟨w', ?_⟩
    cases unit.tree <;> match errors with
      | none | Option.some (_ + 1) => rfl
      | Option.some 0 => exact absurd rfl some
  | @failed e w' unknown =>
    rw [unknown]
    exact ⟨w', rfl⟩
  | refused _ refuses =>
    obtain ⟨earlier, d, refused⟩ := refuses
    obtain ⟨records, taken⟩ := takes earlier d
    exact nomatch refused.symm.trans taken

theorem comes_scriptToolchain (b : Backend) (retains : c.retainsOutput = true) (unit : SourceUnit)
    {start : Workspace} {number : Nat} (alive : start.disposed.getD number false = false) :
    Comes start (scriptToolchain b ⟨number, c, [unit], .ofEntries c.classpath⟩)
      (unit.result b c.classpath c.template start.files) := by
  have entries : (SymbolIndex.ofEntries c.classpath).entries = c.classpath := rfl
  have analysis := comes_analyzeAll takes unit entries (.nothing start.files)
  intro w agrees
  rw [scriptToolchain_run retains, agrees.disposed, alive, if_neg Bool.false_ne_true]
  revert w
  show Comes start _ _
  unfold SourceUnit.result
  cases passes : unit.passes c.classpath c.template start.files with
  | error e =>
    rw [passes] at analysis
    exact .stop analysis _
  | ok met =>
    rw [passes] at analysis
    cases parsed : unit.tree with
    | error report =>
      rw [parsed] at analysis
      have unsound : met = false := by
        rw [SourceUnit.passes, parsed] at passes
        exact (Except.ok.inj passes).symm
      rw [unsound]
      exact .after analysis (.after (.record _ _) (.pure none))
    | ok tree =>
      rw [parsed] at analysis
      cases met with
      | false => exact .after analysis (.after (.record _ _) (.pure none))
      | true =>
        have generates : Comes start (generateAll b Target.bytecode [⟨c, unit, tree⟩] [])
            (unit.generated b c.template tree) := by
          show Comes start (generate b Target.bytecode ⟨c, unit, tree⟩ [] >>= pure) _
          rw [bind_pure]
          exact comes_generate takes b unit tree start
        exact .after analysis (.bind generates fun outputs _ => .after (.record _ _) (.pure _))

end

/-- The class of a unit and its generated files. -/
def SourceUnit.product (b : Backend) (classpath : List Path) (template : Template) (files : FileTree)
    (source : Path) (unit : SourceUnit) : Except Failure (PluginClass × Outputs) :=
  match unit.result b classpath template files with
  | .error e => .error e
  | .ok none => .error (.compilation ⟨.noBytecode, some source⟩)
  | .ok (some outputs) =>
    match unit.plugin with
    | none => .error (.compilation ⟨.notAScript, some source⟩)
    | some plugin => .ok (plugin, outputs)

/-- What a compilation comes to before it writes: the class of its source and the generated files. -/
def scriptOutcome (b : Backend) (classpath : List Path) (template : Template) (files : FileTree)
    (source : Path) : Except Failure (PluginClass × Outputs) :=
  match files.absolute? source with
  | .error e => .error (.file e)
  | .ok root => match unitAt template files root with
    | .error e => .error (guardedFailure source e)
    | .ok unit => (unit.product b classpath template files source).mapError (guardedFailure source)

theorem takes_logging (earlier : List Diagnostic) (d : Diagnostic) :
    ∃ records, Sink.logging.take earlier d = .ok records := ⟨_, rfl⟩

section
variable (b : Backend) (classpath : List Path) (template : Template) (source directory : Path)

theorem comes_produce {c : Configuration} (retains : c.retainsOutput = true) (logs : c.sink = .logging)
    (unit : SourceUnit) {start : Workspace} {number : Nat}
    (alive : start.disposed.getD number false = false) : Comes start
      ((scriptCompiler b classpath template).produce source ⟨number, c, [unit], .ofEntries c.classpath⟩)
      (unit.product b c.classpath c.template start.files source) := by
  have takes : ∀ earlier d, ∃ records, c.sink.take earlier d = .ok records := by
    rw [logs]
    exact takes_logging
  have comes := comes_scriptToolchain takes b retains unit alive
  have units : Comes start
      (Environment.sources ⟨number, c, [unit], .ofEntries c.classpath⟩) (.ok [unit]) := by
    intro w agrees
    refine ⟨w, agrees, ?_⟩
    rw [Environment.sources_run, agrees.disposed, alive]
    rfl
  unfold SourceUnit.product
  cases result : unit.result b c.classpath c.template start.files with
  | error e =>
    rw [result] at comes
    exact .stop comes _
  | ok generated =>
    rw [result] at comes
    refine .after comes ?_
    cases generated with
    | none => exact .throw _
    | some outputs =>
      refine .after units ?_
      dsimp only [List.head?]
      cases declared : unit.plugin with
      | none =>
        simp only [declared, Option.bind_some]
        exact .throw _
      | some plugin =>
        simp only [declared, Option.bind_some]
        exact .pure _

theorem get?_of_generated {unit : SourceUnit} {plugin : PluginClass} {tree : Module} {outputs : Outputs}
    (script : unit.plugin = some plugin) (made : unit.generated b template tree = .ok outputs) :
    ∃ m, assemble tree plugin template = .ok m ∧ outputs = scriptFiles b unit plugin m ∧
      outputs.get? (Target.bytecode.artifactPath plugin.qualifiedName) =
        some (classFile b unit plugin m) := by
  unfold SourceUnit.generated at made
  rw [script] at made
  dsimp only at made
  split at made
  · exact nomatch made
  · exact nomatch made
  · rename_i m assembled
    cases checked : codeChecked unit.path.text m with
    | error e =>
      rw [checked] at made
      exact nomatch made
    | ok _ =>
      rw [checked] at made
      cases made
      refine ⟨m, assembled, rfl, ?_⟩
      exact (Outputs.get?_add _ _ _).trans (if_pos rfl)

theorem generated_of_result {unit : SourceUnit} {files : FileTree} {outputs : Outputs}
    (made : unit.result b classpath template files = .ok (some outputs)) :
    ∃ tree, unit.tree = .ok tree ∧ (demandOf template tree).isMet classpath files = .ok true ∧
      unit.generated b template tree = .ok outputs := by
  unfold SourceUnit.result SourceUnit.passes at made
  cases parsed : unit.tree with
  | error report =>
    rw [parsed] at made
    exact nomatch made
  | ok tree =>
    rw [parsed] at made
    dsimp only at made
    cases met : (demandOf template tree).isMet classpath files with
    | error e =>
      rw [met] at made
      exact nomatch made
    | ok passes =>
      rw [met] at made
      cases passes with
      | false => exact nomatch made
      | true =>
        cases generated : unit.generated b template tree with
        | error e =>
          rw [generated] at made
          exact nomatch made
        | ok outputs' =>
          rw [generated] at made
          cases made
          exact ⟨tree, rfl, met, generated⟩

theorem product_ok {unit : SourceUnit} {files : FileTree} {plugin : PluginClass} {outputs : Outputs}
    (made : unit.product b classpath template files source = .ok (plugin, outputs)) :
    ∃ tree m, unit.plugin = some plugin ∧ unit.tree = .ok tree ∧
      (demandOf template tree).isMet classpath files = .ok true ∧
      assemble tree plugin template = .ok m ∧ outputs = scriptFiles b unit plugin m ∧
      outputs.get? (Target.bytecode.artifactPath plugin.qualifiedName) =
        some (classFile b unit plugin m) := by
  unfold SourceUnit.product at made
  split at made
  · exact nomatch made
  · exact nomatch made
  · rename_i outputs' result
    split at made
    · exact nomatch made
    · rename_i plugin' script
      cases made
      obtain ⟨tree, parsed, met, generated⟩ := generated_of_result b classpath template result
      obtain ⟨m, assembled, same, there⟩ := get?_of_generated b template script generated
      exact ⟨tree, m, script, parsed, met, assembled, same, there⟩

theorem deliver_outcome {c : Configuration} (retains : c.retainsOutput = true) (logs : c.sink = .logging)
    (unit : SourceUnit) {w : Workspace} {number : Nat} (alive : w.disposed.getD number false = false) :
    let environment : Environment := ⟨number, c, [unit], .ofEntries c.classpath⟩
    match unit.product b c.classpath c.template w.files source with
    | .error e => ∃ w', w'.files = w.files ∧
        (scriptCompiler b classpath template).deliver source directory environment w =
          .error (guardedFailure source e) w'
    | .ok (plugin, outputs) => ∃ w₁, w₁.files = w.files ∧
        (scriptCompiler b classpath template).deliver source directory environment w =
          match outputs.forM (writeOutput directory) w₁ with
          | .ok _ w₂ => .ok ⟨plugin.qualifiedName,
              directory.child (Target.bytecode.artifactPath plugin.qualifiedName)⟩ w₂
          | .error e w₂ => .error e w₂ := by
  intro environment
  obtain ⟨w₁, agrees, produced⟩ :=
    (comes_produce b classpath template source retains logs unit alive).guarded source w (.refl w)
  cases made : unit.product b c.classpath c.template w.files source with
  | error e =>
    rw [made] at produced
    refine ⟨w₁, agrees.files, ?_⟩
    rw [Compiler.deliver, Build.bind_run, produced]
    rfl
  | ok result =>
    obtain ⟨plugin, outputs⟩ := result
    rw [made] at produced
    obtain ⟨tree, m, -, -, -, -, -, there⟩ := product_ok b c.classpath c.template source made
    exact ⟨w₁, agrees.files, deliver_run _ produced there⟩

/-- A compilation fails without a change to the files where its outcome is a failure, and otherwise ends
as writing the generated files does. -/
theorem compile_run (w : Workspace) :
    match scriptOutcome b classpath template w.files source with
    | .error e => ∃ w', w'.files = w.files ∧
        (scriptCompiler b classpath template).compile source directory w = .error e w'
    | .ok (plugin, outputs) => ∃ w₁, ∃ after : Workspace → Workspace, w₁.files = w.files ∧
        (∀ w, (after w).files = w.files) ∧
        (scriptCompiler b classpath template).compile source directory w =
          match outputs.forM (writeOutput directory) w₁ with
          | .ok _ w₂ => .ok ⟨plugin.qualifiedName,
              directory.child (Target.bytecode.artifactPath plugin.qualifiedName)⟩ (after w₂)
          | .error e w₂ => .error e (after w₂) := by
  rw [Compiler.compile_eq, Compiler.environmentIn, Compiler.environmentFor]
  unfold scriptOutcome
  cases w.files.absolute? source with
  | error e => exact ⟨begun source w, rfl, rfl⟩
  | ok root =>
    dsimp only
    rw [show unitAt (scriptCompiler b classpath template).template w.files root =
      unitAt template w.files root from rfl]
    cases unitAt template w.files root with
    | error e => exact ⟨begun source w, rfl, rfl⟩
    | ok unit =>
      let configuration := (scriptCompiler b classpath template).configuration source root
      have alive : ((begun source w).opened configuration).disposed.getD w.disposed.length false = false := by
        simp [Workspace.opened, begun]
      have delivered := deliver_outcome b classpath template source directory (c := configuration) rfl rfl
        unit alive
      dsimp only
      cases made : unit.product b classpath template w.files source with
      | error e =>
        rw [show unit.product b configuration.classpath configuration.template
          ((begun source w).opened configuration).files source = _ from made] at delivered
        obtain ⟨w₁, same, failed⟩ := delivered
        exact ⟨w₁.leave w.scope, (w₁.leave_files _).trans same, congrArg (leaving w.scope) failed⟩
      | ok result =>
        rw [show unit.product b configuration.classpath configuration.template
          ((begun source w).opened configuration).files source = _ from made] at delivered
        obtain ⟨w₁, same, ended⟩ := delivered
        refine ⟨w₁, (·.leave w.scope), same, fun w => w.leave_files _, ?_⟩
        refine (congrArg (leaving w.scope) ended).trans ?_
        cases result.2.forM (writeOutput directory) w₁ <;> rfl

end

end PluginBuild
