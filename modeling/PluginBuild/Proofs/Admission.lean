import PluginBuild.Proofs.Passing
import PluginBuild.Proofs.Verdict

/-!
What a classpath decides. The toolchain gives files for some sources exactly if all of them pass and their
files can be generated. Only the first depends on the classpath, and a longer classpath lets no fewer
sources pass; so all classpaths that give files give the same files.
-/

namespace PluginBuild

open PluginBuild.Files PluginBuild.Script PluginBuild.Text

/-- Workspaces that differ in nothing but the log. -/
structure Alike (w v : Workspace) : Prop where
  files : w.files = v.files
  diagnostics : w.diagnostics = v.diagnostics

namespace Alike

variable {w v u : Workspace}

theorem refl (w : Workspace) : Alike w w := ⟨rfl, rfl⟩

theorem symm (one : Alike w v) : Alike v w := ⟨one.files.symm, one.diagnostics.symm⟩

theorem trans (one : Alike w v) (two : Alike v u) : Alike w u :=
  ⟨one.files.trans two.files, one.diagnostics.trans two.diagnostics⟩

end Alike

inductive SameEnd {α : Type} :
    EStateM.Result Failure Workspace α → EStateM.Result Failure Workspace α → Prop
  | ok {a : α} {w v : Workspace} (alike : Alike w v) : SameEnd (.ok a w) (.ok a v)
  | error {e : Failure} {w v : Workspace} (alike : Alike w v) : SameEnd (.error e w) (.error e v)

theorem SameEnd.trans {α : Type} {one two three : EStateM.Result Failure Workspace α}
    (first : SameEnd one two) (second : SameEnd two three) : SameEnd one three := by
  cases first with
  | ok alike =>
    cases second with
    | ok alike' => exact .ok (alike.trans alike')
  | error alike =>
    cases second with
    | error alike' => exact .error (alike.trans alike')

/-- Tasks that end alike, begun in workspaces that differ in nothing but the log. -/
def Agree {α : Type} (task task' : Build α) : Prop :=
  ∀ w v, Alike w v → SameEnd (task w) (task' v)

namespace Agree

variable {α β : Type} {task task' : Build α} {next next' : α → Build β}

theorem pure (a : α) : Agree (Pure.pure a : Build α) (Pure.pure a) := fun _ _ alike => .ok alike

theorem throw (e : Failure) : Agree (throw e : Build α) (throw e) := fun _ _ alike => .error alike

theorem bind (first : Agree task task') (second : ∀ a, Agree (next a) (next' a)) :
    Agree (task >>= next) (task' >>= next') := by
  intro w v alike
  have here := first w v alike
  rw [Build.bind_run, Build.bind_run]
  generalize task w = r, task' v = r' at here
  cases here with
  | @ok a w v alike => exact second a w v alike
  | error alike => exact .error alike

theorem forM {xs : List α} {each : α → Build Unit} (all : ∀ x, Agree (each x) (each x)) :
    Agree (xs.forM each) (xs.forM each) := by
  induction xs with
  | nil => exact pure ()
  | cons x rest ih => exact bind (all x) fun _ => ih

theorem deliver (sink : Sink) (d : Diagnostic) : Agree (sink.deliver d) (sink.deliver d) := by
  intro w v alike
  rw [Sink.deliver_run, Sink.deliver_run, alike.diagnostics]
  cases sink.take v.diagnostics d with
  | ok records => exact .ok ⟨alike.files, rfl⟩
  | error message => exact .error ⟨alike.files, rfl⟩

end Agree

def Configuration.on (c : Configuration) (classpath : List Path) : Configuration :=
  { c with classpath }

def subjects (c : Configuration) (units : List SourceUnit) : List Subject :=
  units.filterMap fun unit => unit.tree.toOption.map (⟨c, unit, ·⟩)

theorem generate_on (b : Backend) (t : Target) (c : Configuration) (classpath : List Path)
    (unit : SourceUnit) (tree : Module) (outputs : Outputs) :
    generate b t ⟨c.on classpath, unit, tree⟩ outputs = generate b t ⟨c, unit, tree⟩ outputs := rfl

theorem generateAll_on (b : Backend) (t : Target) (c : Configuration) (classpath : List Path)
    (units : List SourceUnit) (outputs : Outputs) :
    generateAll b t (subjects (c.on classpath) units) outputs =
      generateAll b t (subjects c units) outputs := by
  induction units generalizing outputs with
  | nil => rfl
  | cons unit rest ih =>
    cases parsed : unit.tree with
    | error report =>
      simp only [subjects, List.filterMap_cons, parsed, Except.toOption, Option.map_none] at ih ⊢
      exact ih outputs
    | ok tree =>
      simp only [subjects, List.filterMap_cons, parsed, Except.toOption, Option.map_some,
        generateAll, generate_on] at ih ⊢
      simp only [ih]

theorem agree_generate (b : Backend) (t : Target) (s : Subject) (outputs : Outputs) :
    Agree (generate b t s outputs) (generate b t s outputs) := by
  have checks : ∀ fileName m, Agree (checkCode s fileName m) (checkCode s fileName m) := by
    intro fileName m
    unfold checkCode
    split
    · exact .throw _
    · exact .forM fun w => .deliver _ _
  unfold generate
  dsimp only
  split
  · exact .bind (checks _ _) fun _ => .pure _
  · split
    · exact .throw _
    · exact .throw _
    · exact .bind (checks _ _) fun _ => .pure _

theorem agree_generateAll (b : Backend) (t : Target) (analysed : List Subject) (outputs : Outputs) :
    Agree (generateAll b t analysed outputs) (generateAll b t analysed outputs) := by
  induction analysed generalizing outputs with
  | nil => exact .pure outputs
  | cons s rest ih => exact .bind (agree_generate b t s outputs) fun outputs => ih outputs

theorem SourceUnit.passes_append {classpath : List Path} {template : Template} {files : FileTree}
    {unit : SourceUnit} (passes : unit.passes classpath template files = .ok true)
    (extra : List Path) : unit.passes (classpath ++ extra) template files = .ok true := by
  unfold SourceUnit.passes at passes ⊢
  cases parsed : unit.tree with
  | error report =>
    rw [parsed] at passes
    exact nomatch passes
  | ok tree =>
    rw [parsed] at passes
    obtain ⟨clean, provided⟩ := Demand.isMet_eq_true.mp passes
    refine Demand.isMet_eq_true.mpr ⟨clean, fun module member => ?_⟩
    exact isProvided_append (provided module member) extra

section
variable {c : Configuration} {symbols : SymbolIndex} {units : List SourceUnit} {w w' : Workspace}

theorem analyzeAll_of_passes (entries : symbols.entries = c.classpath)
    (remembers : Remembers w.files symbols.archives)
    (pass : ∀ unit ∈ units, unit.passes c.classpath c.template w.files = .ok true) :
    ∃ w', Alike w w' ∧ analyzeAll c symbols units w = .ok (subjects c units, false) w' := by
  induction units generalizing symbols w with
  | nil => exact ⟨w, .refl w, rfl⟩
  | cons unit rest ih =>
    obtain ⟨passes, others⟩ := List.forall_mem_cons.mp pass
    have analyzed := isAnalyzed c unit entries remembers
    rw [analyzeAll_cons_run]
    generalize analyze c unit symbols w = r at analyzed
    cases analyzed with
    | marked unmet => exact nomatch passes.symm.trans unmet
    | failed unknown => exact nomatch passes.symm.trans unknown
    | refused unmet => exact absurd passes unmet
    | @passed symbols₁ w₁ met entries₁ remembers₁ files diagnostics =>
      obtain ⟨w₂, alike, ran⟩ := ih entries₁ (files ▸ remembers₁) (files ▸ others)
      refine ⟨w₂, .trans ⟨files.symm, diagnostics.symm⟩ alike, ?_⟩
      cases parsed : unit.tree with
      | error report =>
        rw [SourceUnit.passes, parsed] at passes
        exact nomatch passes
      | ok tree =>
        simp only [ran, subjects, List.filterMap_cons, parsed, Except.toOption, Option.map_some]

theorem passes_of_analyzeAll {analysed : List Subject} (entries : symbols.entries = c.classpath)
    (remembers : Remembers w.files symbols.archives)
    (done : analyzeAll c symbols units w = .ok (analysed, false) w') :
    ∀ unit ∈ units, unit.passes c.classpath c.template w.files = .ok true := by
  induction units generalizing symbols w w' analysed with
  | nil => exact fun _ member => nomatch member
  | cons unit rest ih =>
    have analyzed := isAnalyzed c unit entries remembers
    rw [analyzeAll_cons_run] at done
    generalize analyze c unit symbols w = r at analyzed done
    cases analyzed with
    | failed | refused => exact nomatch done
    | @marked errors symbols₁ w₁ unmet some files =>
      dsimp only at done
      split at done
      · exact nomatch done
      · split at done
        · exact absurd rfl some
        · exact nomatch done
    | @passed symbols₁ w₁ met entries₁ remembers₁ files diagnostics =>
      dsimp only at done
      split at done
      · exact nomatch done
      · rename_i analysed' failed w₂ later
        obtain rfl : failed = false := by
          split at done
          · cases done
            rfl
          · exact nomatch done
        have others := ih entries₁ (files ▸ remembers₁) later
        rw [files] at others
        exact List.forall_mem_cons.mpr ⟨met, others⟩

end

def toolchainRun (b : Backend) (c : Configuration) : Build (Option Outputs) := do
  scriptToolchain b (← Environment.create c)

/-- What has to be so for the toolchain to give certain files: the sources can be read and pass, and
their files can be generated. -/
structure GivesFiles (b : Backend) (c : Configuration) (w : Workspace) (outputs : Outputs)
    (w' : Workspace) (units : List SourceUnit) (w₁ : Workspace) : Prop where
  loaded : c.sources.mapM (SourceUnit.load c.template) w = .ok units w₁
  retains : c.retainsOutput = true
  pass : ∀ unit ∈ units, unit.passes c.classpath c.template w₁.files = .ok true
  generated : SameEnd (generateAll b Target.bytecode (subjects c units) [] w₁) (.ok outputs w')

section
variable {b : Backend} {c : Configuration} {w w' : Workspace} {outputs : Outputs}

theorem givesFiles_of_run (done : toolchainRun b c w = .ok (some outputs) w') :
    ∃ units w₁, GivesFiles b c w outputs w' units w₁ := by
  obtain ⟨environment, w₂, created, done⟩ := Build.bind_eq_ok done
  obtain ⟨units, w₁, loaded, created⟩ := Build.bind_eq_ok created
  cases created
  have retains : c.retainsOutput = true := by
    cases retained : c.retainsOutput with
    | true => rfl
    | false =>
      unfold scriptToolchain at done
      simp only [retained, Bool.not_false, if_true] at done
      exact nomatch done
  rw [scriptToolchain_run retains] at done
  split at done
  · exact nomatch done
  obtain ⟨⟨analysed, failed⟩, w₄, analysis, done⟩ := Build.bind_eq_ok done
  cases failed with
  | true =>
    obtain ⟨_, _, -, same⟩ := Build.bind_eq_ok done
    exact nomatch same
  | false =>
    obtain ⟨made, w₅, generated, done⟩ := Build.bind_eq_ok done
    obtain ⟨_, w₆, recorded, same⟩ := Build.bind_eq_ok done
    cases recorded
    cases same
    have pass := passes_of_analyzeAll rfl (.nothing _) analysis
    have entries : (SymbolIndex.ofEntries c.classpath).entries = c.classpath := rfl
    obtain ⟨w₂, alike, ran⟩ := analyzeAll_of_passes entries (.nothing _) pass
    obtain ⟨same, rfl⟩ := EStateM.Result.ok.inj (ran.symm.trans analysis)
    obtain rfl : subjects c units = analysed := (Prod.mk.inj same).1
    have begun : Alike w₁ w₂ := ⟨alike.files, alike.diagnostics⟩
    refine ⟨units, w₁, loaded, retains, pass, ?_⟩
    exact (agree_generateAll b _ _ _ w₁ w₂ begun).trans (generated ▸ .ok ⟨rfl, rfl⟩)

theorem run_of_givesFiles {units : List SourceUnit} {w₁ : Workspace}
    (gives : GivesFiles b c w outputs w' units w₁) :
    ∃ w'', toolchainRun b c w = .ok (some outputs) w'' ∧ Alike w' w'' := by
  let w₂ : Workspace := { w₁ with
    disposed := w₁.disposed ++ [false]
    scope := ⟨w₁.disposed.length, c.moduleName⟩ :: w₁.scope
    log := w₁.log ++ [creation c.moduleName c.classpath.length] }
  let environment : Environment := ⟨w₁.disposed.length, c, units, .ofEntries c.classpath⟩
  have created : Environment.create c w = .ok environment w₂ := by
    rw [Environment.create, Build.bind_run, gives.loaded]
    rfl
  have entries : environment.symbols.entries = c.classpath := rfl
  obtain ⟨w₃, alike, analysis⟩ := analyzeAll_of_passes (w := w₂) entries (.nothing _) gives.pass
  have begun : Alike w₃ w₁ := alike.symm.trans ⟨rfl, rfl⟩
  have generated := (agree_generateAll b Target.bytecode (subjects c units) [] w₃ w₁ begun).trans
    gives.generated
  generalize ended : generateAll b Target.bytecode (subjects c units) [] w₃ = r at generated
  cases generated with
  | @ok _ w₄ _ alike' =>
    let w₅ : Workspace := { w₄ with log := w₄.log ++ [⟨.debug,
      s!"module={c.moduleName} generated {outputs.length} output(s)"⟩] }
    refine ⟨w₅, ?_, alike'.symm.trans ⟨rfl, rfl⟩⟩
    rw [toolchainRun, Build.bind_run, created]
    dsimp only
    have alive : w₂.disposed.getD environment.number false = false := by simp [w₂, environment]
    rw [scriptToolchain_run gives.retains, alive, if_neg Bool.false_ne_true, Build.bind_run]
    dsimp only
    rw [analysis]
    dsimp only
    rw [if_neg Bool.false_ne_true, Build.bind_run, ended]
    rfl

/-- A classpath with which the toolchain gives files can be made longer without a change to the files
and the diagnostics, whatever the further entries are; and any other classpath with which it gives files
gives the same. -/
theorem classpath_only_admits (done : toolchainRun b c w = .ok (some outputs) w') :
    (∀ extra, ∃ w'', toolchainRun b (c.on (c.classpath ++ extra)) w = .ok (some outputs) w'' ∧
      w''.diagnostics = w'.diagnostics) ∧
    ∀ other outputs' w'', toolchainRun b (c.on other) w = .ok (some outputs') w'' →
      outputs' = outputs ∧ w''.diagnostics = w'.diagnostics := by
  obtain ⟨units, w₁, gives⟩ := givesFiles_of_run done
  have again : ∀ classpath,
      (∀ unit ∈ units, unit.passes classpath c.template w₁.files = .ok true) →
      ∃ w'', toolchainRun b (c.on classpath) w = .ok (some outputs) w'' ∧ Alike w' w'' :=
    fun classpath pass => run_of_givesFiles
      ⟨gives.loaded, gives.retains, pass, by rw [generateAll_on]; exact gives.generated⟩
  constructor
  · intro extra
    obtain ⟨w'', ran, alike⟩ := again _ fun unit member =>
      SourceUnit.passes_append (gives.pass unit member) extra
    exact ⟨w'', ran, alike.diagnostics.symm⟩
  · intro other outputs' w'' done'
    obtain ⟨units', w₁', gives'⟩ := givesFiles_of_run done'
    obtain ⟨rfl, rfl⟩ := EStateM.Result.ok.inj (gives'.loaded.symm.trans gives.loaded)
    obtain ⟨w₂, ran, alike⟩ := again other gives'.pass
    obtain ⟨same, rfl⟩ := EStateM.Result.ok.inj (done'.symm.trans ran)
    exact ⟨Option.some.inj same, alike.diagnostics.symm⟩

end

set_option maxRecDepth 100000 in
/-- A script that compiles with a library compiles to the same with an entry more, which is no archive. -/
theorem longer_classpath_of_script : ∃ outputs w' w'',
    toolchainRun (fun _ _ => []) (mixedConfiguration ["a.plugin.py"]) mixedWorkspace =
      .ok (some outputs) w' ∧
    toolchainRun (fun _ _ => []) ((mixedConfiguration ["a.plugin.py"]).on
      [Path.ofString "lib", Path.ofString "b.plugin.py"]) mixedWorkspace = .ok (some outputs) w'' ∧
    w''.diagnostics = w'.diagnostics := by
  obtain ⟨environment, w₁, outputs, w', created, ran, gives⟩ := exists_of_givesFiles
    (show givesFiles (mixedConfiguration ["a.plugin.py"]) mixedWorkspace = some true by decide +kernel)
  obtain ⟨outputs, rfl⟩ := Option.isSome_iff_exists.mp gives
  have done : toolchainRun (fun _ _ => []) (mixedConfiguration ["a.plugin.py"]) mixedWorkspace =
      .ok (some outputs) w' := by
    rw [toolchainRun, Build.bind_run, created]
    exact ran
  obtain ⟨w'', again, same⟩ := (classpath_only_admits done).1 [Path.ofString "b.plugin.py"]
  exact ⟨outputs, w', w'', done, again, same⟩

end PluginBuild
