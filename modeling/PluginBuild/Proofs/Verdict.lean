import PluginBuild.Proofs.Compilation
import PluginBuild.Proofs.Diagnostics
import PluginBuild.Script.Codecs

/-!
What the result of the toolchain says about its sources. It gives no files only where an error was
delivered; where it gives files, every source has a tree and went through every check, and no error
was delivered.
-/

namespace PluginBuild

open PluginBuild.Files PluginBuild.Script PluginBuild.Text

/-- A run of checks on a source, one after the other. The name of each is recorded before it looks at
the source. -/
inductive ChecksRun (s : Subject) :
    List (String × Check) → Findings → Workspace → Findings → Workspace → Prop where
  | none (f : Findings) (w : Workspace) : ChecksRun s [] f w f w
  | next {name : String} {check : Check} {rest : List (String × Check)} {f f₁ f' : Findings}
      {w w₀ w₁ w' : Workspace}
      (named : Build.record .debug s!"module={s.configuration.moduleName} check={name}" w = .ok () w₀)
      (ran : (check s).run f w₀ = .ok ((), f₁) w₁) (more : ChecksRun s rest f₁ w₁ f' w') :
      ChecksRun s ((name, check) :: rest) f w f' w'

/-- An analysis of units, one after the other, in which each has a tree and every registered check
runs on it and none counts an error. -/
inductive PassesChecks (c : Configuration) :
    SymbolIndex → List SourceUnit → Workspace → Workspace → Prop where
  | none (symbols : SymbolIndex) (w : Workspace) : PassesChecks c symbols [] w w
  | next {unit : SourceUnit} {rest : List SourceUnit} {tree : Module} {symbols symbols₁ : SymbolIndex}
      {w w₁ w' : Workspace} (parsed : unit.tree = .ok tree)
      (ran : ChecksRun ⟨c, unit, tree⟩ builtinChecks.checks ⟨symbols, 0⟩ w ⟨symbols₁, 0⟩ w₁)
      (more : PassesChecks c symbols₁ rest w₁ w') : PassesChecks c symbols (unit :: rest) w w'

theorem PassesChecks.parsed {c : Configuration} {symbols : SymbolIndex} {units : List SourceUnit}
    {w w' : Workspace} (passes : PassesChecks c symbols units w w') :
    ∀ unit ∈ units, ∃ tree, unit.tree = .ok tree := by
  induction passes with
  | none => exact fun _ member => nomatch member
  | next parsed _ _ ih =>
    intro unit member
    rcases List.mem_cons.mp member with rfl | later
    · exact ⟨_, parsed⟩
    · exact ih unit later

theorem checksRun_of_forM {s : Subject} {checks : List (String × Check)} {f f' : Findings}
    {w w' : Workspace} (ran : (checks.forM fun (name, check) => (do
      Build.record .debug s!"module={s.configuration.moduleName} check={name}"
      check s : Analysis Unit)).run f w = .ok ((), f') w') : ChecksRun s checks f w f' w' := by
  induction checks generalizing f w with
  | nil =>
    cases ran
    exact .none _ _
  | cons first rest ih =>
    obtain ⟨name, check⟩ := first
    rw [Build.forM_cons_runState] at ran
    split at ran
    · rename_i f₁ w₁ here
      exact .next rfl here (ih ran)
    · exact nomatch ran

theorem analyze_cases {c : Configuration} {unit : SourceUnit} {symbols symbols' : SymbolIndex}
    {errors : Option Nat} {w w' : Workspace}
    (done : analyze c unit symbols w = .ok (errors, symbols') w') :
    ∃ ds, w'.diagnostics = w.diagnostics ++ ds ∧
      (errors ≠ some 0 ∧ (∃ d ∈ ds, d.isError = true) ∨
        errors = some 0 ∧ (∀ d ∈ ds, d.isError = false) ∧ ∃ tree, unit.tree = .ok tree ∧
          ChecksRun ⟨c, unit, tree⟩ builtinChecks.checks ⟨symbols, 0⟩ w ⟨symbols', 0⟩ w') := by
  unfold analyze at done
  cases parsed : unit.tree with
  | error report =>
    rw [parsed] at done
    let d := report.diagnostic unit.path unit.text
    have added := c.sink.deliver_diagnostics d w
    obtain ⟨_, w₁, delivered, same⟩ := Build.bind_eq_ok done
    cases same
    rw [delivered] at added
    exact ⟨[d], added, .inl ⟨nofun, d, List.mem_singleton_self d, rfl⟩⟩
  | ok tree =>
    rw [parsed] at done
    obtain ⟨⟨_, ⟨symbols₁, n⟩⟩, w₁, ran, same⟩ := Build.bind_eq_ok done
    cases same
    obtain ⟨ds, added, counted⟩ := (Analysis.IsPlain.runChecks ⟨c, unit, tree⟩).tallies ⟨symbols, 0⟩ w
    obtain rfl : n = ds.countP (·.isError) := (counted _ _ _ ran).trans (Nat.zero_add _)
    rw [ran] at added
    refine ⟨ds, added, ?_⟩
    -- The count began at nothing, so it tells whether an error is among what was added.
    by_cases clean : ds.countP (·.isError) = 0
    · rw [clean] at ran ⊢
      refine .inr ⟨rfl, ?_, tree, rfl, checksRun_of_forM ran⟩
      intro d member
      simpa using List.countP_eq_zero.mp clean d member
    · refine .inl ⟨?_, List.countP_pos_iff.mp (Nat.pos_of_ne_zero clean)⟩
      intro same
      exact clean (Option.some.inj same)

theorem analyzeAll_cases {c : Configuration} {units : List SourceUnit} {symbols : SymbolIndex}
    {analysed : List Subject} {failed : Bool} {w w' : Workspace}
    (done : analyzeAll c symbols units w = .ok (analysed, failed) w') :
    ∃ ds, w'.diagnostics = w.diagnostics ++ ds ∧
      (failed = true ∧ (∃ d ∈ ds, d.isError = true) ∨
        failed = false ∧ (∀ d ∈ ds, d.isError = false) ∧ PassesChecks c symbols units w w') := by
  induction units generalizing symbols w w' analysed failed with
  | nil =>
    cases done
    refine ⟨[], (List.append_nil _).symm, .inr ⟨rfl, ?_, .none symbols _⟩⟩
    exact fun _ member => nomatch member
  | cons unit rest ih =>
    obtain ⟨⟨errors, symbols₁⟩, w₁, here, done⟩ := Build.bind_eq_ok done
    obtain ⟨⟨others, failed'⟩, w₂, later, done⟩ := Build.bind_eq_ok done
    obtain ⟨ds, added, verdict⟩ := analyze_cases here
    obtain ⟨more, added', verdict'⟩ := ih later
    have all : w₂.diagnostics = w.diagnostics ++ (ds ++ more) := by
      rw [added', added, List.append_assoc]
    rcases verdict with ⟨unsound, d, member, isError⟩ | ⟨rfl, clean, tree, parsed, ran⟩
    -- Units behind one that failed are still analysed, which does not mend the result.
    · have ends : failed = true ∧ w₂ = w' := by
        match errors with
        | some 0 => exact absurd rfl unsound
        | Option.none | some (_ + 1) =>
          cases done
          exact ⟨rfl, rfl⟩
      obtain ⟨rfl, rfl⟩ := ends
      exact ⟨_, all, .inl ⟨rfl, d, List.mem_append_left more member, isError⟩⟩
    · rw [parsed] at done
      cases done
      refine ⟨_, all, ?_⟩
      rcases verdict' with ⟨unsound, d, member, isError⟩ | ⟨sound, clean', passes⟩
      · exact .inl ⟨unsound, d, List.mem_append_right ds member, isError⟩
      · refine .inr ⟨sound, ?_, .next parsed ran passes⟩
        intro d member
        rcases List.mem_append.mp member with first | second
        · exact clean d first
        · exact clean' d second

theorem checkCode_notices (s : Subject) (fileName : String) (m : Module) :
    Delivers (·.isError = false) (checkCode s fileName m) := by
  unfold checkCode
  split
  · exact .throw _
  · exact .forM fun w => .deliver _ rfl

theorem generate_notices (b : Backend) (t : Target) (s : Subject) (outputs : Outputs) :
    Delivers (·.isError = false) (generate b t s outputs) := by
  unfold generate
  dsimp only
  split
  · exact .bind (checkCode_notices _ _ _) fun _ => .pure _
  · split
    · exact .throw _
    · exact .throw _
    · exact .bind (checkCode_notices _ _ _) fun _ => .pure _

theorem generateAll_notices (b : Backend) (t : Target) (subjects : List Subject) (outputs : Outputs) :
    Delivers (·.isError = false) (generateAll b t subjects outputs) := by
  induction subjects generalizing outputs with
  | nil => exact .pure _
  | cons s rest ih => exact .bind (generate_notices b t s outputs) fun outputs => ih outputs

theorem SourceUnit.path_of_ofBytes {codec? : String → Option Codec} {path : Path} {isScript : Bool}
    {bytes : Bytes} {unit : SourceUnit} (made : SourceUnit.ofBytes codec? path isScript bytes = .ok unit) :
    unit.path = path := by
  unfold SourceUnit.ofBytes at made
  split at made
  · exact nomatch made
  · split at made
    · exact nomatch made
    · cases made
      rfl

theorem load_eq_ok {template : Template} {path : Path} {unit : SourceUnit} {w w' : Workspace}
    (loaded : SourceUnit.load template path w = .ok unit w') : unitAt template w.files path = .ok unit := by
  rw [load_run] at loaded
  split at loaded
  · rename_i found
    cases loaded
    exact found
  · exact nomatch loaded

theorem create_units {c : Configuration} {environment : Environment} {w w' : Workspace}
    (created : Environment.create c w = .ok environment w') :
    environment.units.map (·.path) = c.sources ∧ environment.configuration = c := by
  have loaded : ∀ (paths : List Path) (units : List SourceUnit) (w w' : Workspace),
      paths.mapM (SourceUnit.load c.template) w = .ok units w' → units.map (·.path) = paths := by
    intro paths
    induction paths with
    | nil =>
      intro units w w' done
      cases done
      rfl
    | cons path rest ih =>
      intro units w w' done
      rw [List.mapM_cons] at done
      obtain ⟨unit, w₁, here, done⟩ := Build.bind_eq_ok done
      obtain ⟨others, w₂, later, same⟩ := Build.bind_eq_ok done
      cases same
      rw [List.map_cons, SourceUnit.path_of_ofBytes (unitAt_eq_ok.mp (load_eq_ok here)).2,
        ih others _ _ later]
  obtain ⟨units, w₁, done, rest⟩ := Build.bind_eq_ok created
  cases rest
  exact ⟨loaded _ _ _ _ done, rfl⟩

section
variable {b : Backend} {c : Configuration} {environment : Environment} {w w' : Workspace}

theorem scriptToolchain_run (retains : environment.configuration.retainsOutput = true) (w : Workspace) :
    scriptToolchain b environment w = if w.disposed.getD environment.number false
      then .error (.toolchain .disposed) w else (do
        let c := environment.configuration
        let (analysed, failed) ← analyzeAll c environment.symbols environment.units
        if failed then
          Build.record .debug s!"module={c.moduleName} analysis failed"
          return none
        let outputs ← generateAll b Target.bytecode analysed []
        Build.record .debug s!"module={c.moduleName} generated {outputs.length} output(s)"
        return some outputs : Build (Option Outputs)) w := by
  unfold scriptToolchain
  simp only [retains, Bool.not_true, Bool.false_eq_true, if_false]
  rw [Build.bind_run, Environment.sources_run]
  cases w.disposed.getD environment.number false <;> rfl

theorem error_of_no_files (retains : environment.configuration.retainsOutput = true)
    (done : scriptToolchain b environment w = .ok none w') :
    ∃ ds, w'.diagnostics = w.diagnostics ++ ds ∧ ∃ d ∈ ds, d.isError = true := by
  rw [scriptToolchain_run retains] at done
  split at done
  · exact nomatch done
  obtain ⟨⟨analysed, failed⟩, w₂, analysis, done⟩ := Build.bind_eq_ok done
  obtain ⟨ds, added, verdict⟩ := analyzeAll_cases analysis
  cases failed with
  | false =>
    obtain ⟨_, _, -, done⟩ := Build.bind_eq_ok done
    obtain ⟨_, _, -, same⟩ := Build.bind_eq_ok done
    exact nomatch same
  | true =>
    obtain ⟨_, _, recorded, same⟩ := Build.bind_eq_ok done
    cases recorded
    cases same
    rcases verdict with ⟨-, error⟩ | ⟨sound, -⟩
    · exact ⟨ds, added, error⟩
    · exact nomatch sound

/-- Where files are generated, all units passed, and no error was delivered then or later. -/
theorem passes_of_files (retains : environment.configuration.retainsOutput = true) {outputs : Outputs}
    (done : scriptToolchain b environment w = .ok (some outputs) w') :
    (∃ w₂, PassesChecks environment.configuration environment.symbols environment.units w w₂) ∧
      ∃ ds, w'.diagnostics = w.diagnostics ++ ds ∧ ∀ d ∈ ds, d.isError = false := by
  rw [scriptToolchain_run retains] at done
  split at done
  · exact nomatch done
  obtain ⟨⟨analysed, failed⟩, w₂, analysis, done⟩ := Build.bind_eq_ok done
  obtain ⟨ds, added, verdict⟩ := analyzeAll_cases analysis
  cases failed with
  | true =>
    obtain ⟨_, _, -, same⟩ := Build.bind_eq_ok done
    exact nomatch same
  | false =>
    obtain ⟨made, w₃, generated, done⟩ := Build.bind_eq_ok done
    obtain ⟨_, w₄, recorded, same⟩ := Build.bind_eq_ok done
    cases recorded
    cases same
    obtain ⟨more, added', notices⟩ := generateAll_notices b Target.bytecode analysed [] w₂
    rw [generated] at added'
    rcases verdict with ⟨unsound, -⟩ | ⟨-, clean, passes⟩
    · exact nomatch unsound
    · refine ⟨⟨w₂, passes⟩, ds ++ more, ?_, ?_⟩
      · rw [← List.append_assoc, ← added]
        exact added'
      · intro d member
        rcases List.mem_append.mp member with first | second
        · exact clean d first
        · exact notices d second

end

/-- The toolchain gives no files only where an error was delivered. Where it gives files, every source
has a tree, every registered check ran on it to its end, and nothing that was delivered is an error,
whether in the analysis or afterwards. The count that it goes by is, after any calls that report, the
number of errors among what they delivered. -/
theorem result_tells_errors (b : Backend) {c : Configuration} {environment : Environment}
    {w₀ w₁ : Workspace} (created : Environment.create c w₀ = .ok environment w₁)
    (retains : c.retainsOutput = true) (w : Workspace) :
    environment.units.map (·.path) = c.sources ∧
    (∀ w', scriptToolchain b environment w = .ok none w' →
      ∃ ds, w'.diagnostics = w.diagnostics ++ ds ∧ ∃ d ∈ ds, d.isError = true) ∧
    (∀ outputs w', scriptToolchain b environment w = .ok (some outputs) w' →
      (∀ unit ∈ environment.units, ∃ tree, unit.tree = .ok tree) ∧
      (∃ w₂, PassesChecks c environment.symbols environment.units w w₂) ∧
      ∃ ds, w'.diagnostics = w.diagnostics ++ ds ∧ ∀ d ∈ ds, d.isError = false) ∧
    ∀ (s : Subject) (calls : List Analysis.Report) (f f' : Findings) (w w' : Workspace),
      (calls.forM (Analysis.Report.make s)).run f w = .ok ((), f') w' →
      ∃ ds, w'.diagnostics = w.diagnostics ++ ds ∧ ds.length = calls.length ∧
        f'.errors = f.errors + ds.countP (·.isError) := by
  obtain ⟨paths, rfl⟩ := create_units created
  refine ⟨paths, fun w' done => error_of_no_files retains done, ?_, ?_⟩
  · intro outputs w' done
    obtain ⟨⟨w₂, passes⟩, notices⟩ := passes_of_files retains done
    exact ⟨passes.parsed, ⟨w₂, passes⟩, notices⟩
  · intro s calls f f' w w' done
    obtain ⟨added, counted⟩ := Analysis.Report.forM_make_ok done
    exact ⟨_, added, List.length_map _, counted⟩

/-- A library, a script that is fine and one that returns at its top level. -/
def mixedWorkspace : Workspace :=
  ⟨⟨[(["lib"], .directory), (["lib", "toolchain"], .directory), (["a.plugin.py"], .file [0x23, 0x0A]),
    (["b.plugin.py"], .file (encodeUtf8 "return\n"))], [], .plain⟩, [], [], [], []⟩

def mixedConfiguration (sources : List String) : Configuration :=
  ⟨[Path.ofString "lib"], .plugin, "m", .logging, sources.map Path.ofString, true⟩

/-- Whether files come of a configuration, if an environment is made and the toolchain returns. -/
def givesFiles (c : Configuration) (w : Workspace) : Option Bool :=
  match Environment.create c w with
  | .error _ _ => none
  | .ok environment w₁ =>
    match scriptToolchain (fun _ _ => []) environment w₁ with
    | .error _ _ => none
    | .ok outputs _ => some outputs.isSome

theorem exists_of_givesFiles {c : Configuration} {w : Workspace} {answer : Bool}
    (gives : givesFiles c w = some answer) : ∃ environment w₁ outputs w',
      Environment.create c w = .ok environment w₁ ∧
      scriptToolchain (fun _ _ => []) environment w₁ = .ok outputs w' ∧
      outputs.isSome = answer := by
  unfold givesFiles at gives
  cases created : Environment.create c w with
  | error e w₁ =>
    rw [created] at gives
    exact nomatch gives
  | ok environment w₁ =>
    rw [created] at gives
    dsimp only at gives
    cases ran : scriptToolchain (fun _ _ => []) environment w₁ with
    | error e w' =>
      rw [ran] at gives
      exact nomatch gives
    | ok outputs w' =>
      rw [ran] at gives
      exact ⟨environment, w₁, outputs, w', rfl, ran, Option.some.inj gives⟩

set_option maxRecDepth 100000 in
/-- One script alone gives files without an error; both together give none, with an error. -/
theorem result_of_mixed_scripts :
    (∃ environment w₁ outputs w',
      Environment.create (mixedConfiguration ["a.plugin.py"]) mixedWorkspace = .ok environment w₁ ∧
      scriptToolchain (fun _ _ => []) environment w₁ = .ok (some outputs) w' ∧
      ∃ ds, w'.diagnostics = w₁.diagnostics ++ ds ∧ ∀ d ∈ ds, d.isError = false) ∧
    ∃ environment w₁ w', Environment.create (mixedConfiguration ["a.plugin.py", "b.plugin.py"])
        mixedWorkspace = .ok environment w₁ ∧
      scriptToolchain (fun _ _ => []) environment w₁ = .ok none w' ∧
      ∃ ds, w'.diagnostics = w₁.diagnostics ++ ds ∧ ∃ d ∈ ds, d.isError = true := by
  constructor
  · obtain ⟨environment, w₁, outputs, w', created, ran, gives⟩ := exists_of_givesFiles
      (show givesFiles (mixedConfiguration ["a.plugin.py"]) mixedWorkspace = some true by decide +kernel)
    obtain ⟨outputs, rfl⟩ := Option.isSome_iff_exists.mp gives
    have verdict := result_tells_errors (fun _ _ => []) created rfl w₁
    exact ⟨environment, w₁, outputs, w', created, ran, (verdict.2.2.1 outputs w' ran).2.2⟩
  · obtain ⟨environment, w₁, outputs, w', created, ran, gives⟩ := exists_of_givesFiles
      (show givesFiles (mixedConfiguration ["a.plugin.py", "b.plugin.py"]) mixedWorkspace = some false
        by decide +kernel)
    obtain rfl := Option.isNone_iff_eq_none.mp (Option.isSome_eq_false_iff.mp gives)
    have verdict := result_tells_errors (fun _ _ => []) created rfl w₁
    exact ⟨environment, w₁, w', created, ran, verdict.2.1 w' ran⟩

end PluginBuild
