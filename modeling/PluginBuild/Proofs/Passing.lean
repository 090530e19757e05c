import PluginBuild.Proofs.Diagnostics
import PluginBuild.Proofs.Lookups

/-!
Which sources pass the analysis. The outcome of the checks depends on the classpath only through the
modules that a source needs: it passes if its tree is clean and each of them is provided, and the first
one that cannot be looked up ends the build.
-/

namespace PluginBuild

open PluginBuild.Files PluginBuild.Script PluginBuild.Text

/-- The modules that an import needs from the classpath. -/
def neededModules : Node → List String
  | .stmt (.importModules _ names) => names.map (·.name)
  | .stmt (.importFrom _ (some module) _ 0) => if module = "__future__" then [] else [module]
  | _ => []

def importsAll : Node → Bool
  | .stmt (.importFrom _ _ names _) => names.any (·.name == "*")
  | _ => false

/-- The modules that a source needs from the classpath, in the order in which they are looked up. -/
def needs (template : Template) (tree : Module) : List String :=
  (Script.walk tree.nodes).flatMap neededModules ++ [template.module]

/-- Whether a tree has no fault that could be found without a classpath. -/
def isClean (tree : Module) : Bool :=
  (declarationFaults false tree.body).isEmpty && (bodyFaults tree).isEmpty &&
    !(Script.walk tree.nodes).any importsAll

/-- Both of two questions. The second one is asked also where the answer to the first is no. -/
def both (one two : Except Failure Bool) : Except Failure Bool := do
  let here ← one
  let later ← two
  return here && later

theorem both_eq_true {one two : Except Failure Bool} :
    both one two = .ok true ↔ one = .ok true ∧ two = .ok true := by
  cases one with
  | error e => simp [both, Bind.bind, Except.bind]
  | ok here =>
    cases two with
    | error e => simp [both, Bind.bind, Except.bind]
    | ok later => simp [both, Bind.bind, Except.bind, Pure.pure, Except.pure]

theorem both_assoc (one two three : Except Failure Bool) :
    both (both one two) three = both one (both two three) := by
  cases one with
  | error e => rfl
  | ok a =>
    cases two with
    | error e => rfl
    | ok b =>
      cases three with
      | error e => rfl
      | ok c => exact congrArg Except.ok (Bool.and_assoc a b c)

/-- A question that has an answer may be asked later. -/
theorem both_left_comm (one : Except Failure Bool) (known : Bool) (three : Except Failure Bool) :
    both one (both (.ok known) three) = both (.ok known) (both one three) := by
  cases one with
  | error e => rfl
  | ok a =>
    cases three with
    | error e => rfl
    | ok c => exact congrArg Except.ok (Bool.and_left_comm a known c)

/-- Whether all of some modules are provided; each of them is looked up. -/
def areProvided (classpath : List Path) (files : FileTree) : List String → Except Failure Bool
  | [] => .ok true
  | module :: rest => both (isProvided classpath files module) (areProvided classpath files rest)

theorem areProvided_append (classpath : List Path) (files : FileTree) (front back : List String) :
    areProvided classpath files (front ++ back) =
      both (areProvided classpath files front) (areProvided classpath files back) := by
  induction front with
  | nil =>
    show areProvided classpath files back = both (.ok true) (areProvided classpath files back)
    cases areProvided classpath files back <;> rfl
  | cons module rest ih => rw [List.cons_append, areProvided, areProvided, ih, both_assoc]

theorem areProvided_eq_true {classpath : List Path} {files : FileTree} {modules : List String} :
    areProvided classpath files modules = .ok true ↔
      ∀ module ∈ modules, isProvided classpath files module = .ok true := by
  induction modules with
  | nil => simp [areProvided]
  | cons module rest ih => rw [List.forall_mem_cons, ← ih, areProvided, both_eq_true]

/-- What is asked of a task of an analysis: whether what it looks at is clean, and the modules that it
looks up. -/
structure Demand where
  clean : Bool
  modules : List String

namespace Demand

def none : Demand := ⟨true, []⟩

def and (one two : Demand) : Demand := ⟨one.clean && two.clean, one.modules ++ two.modules⟩

/-- Whether a demand is met, or why that cannot be told. -/
def isMet (demand : Demand) (classpath : List Path) (files : FileTree) : Except Failure Bool :=
  both (.ok demand.clean) (areProvided classpath files demand.modules)

theorem isMet_and (one two : Demand) (classpath : List Path) (files : FileTree) :
    (one.and two).isMet classpath files =
      both (one.isMet classpath files) (two.isMet classpath files) := by
  have split : ∀ x : Except Failure Bool, both (.ok (one.clean && two.clean)) x =
      both (.ok one.clean) (both (.ok two.clean) x) := fun x =>
    both_assoc (.ok one.clean) (.ok two.clean) x
  unfold isMet and
  dsimp only
  rw [areProvided_append, split, both_assoc,
    both_left_comm (areProvided classpath files one.modules)]

theorem isMet_eq_true {demand : Demand} {classpath : List Path} {files : FileTree} :
    demand.isMet classpath files = .ok true ↔ demand.clean = true ∧
      ∀ module ∈ demand.modules, isProvided classpath files module = .ok true := by
  rw [isMet, both_eq_true, areProvided_eq_true, Except.ok.injEq]

end Demand

/-- Findings whose index is one of a classpath and remembers what the files show. -/
structure Findings.IsFor (f : Findings) (classpath : List Path) (files : FileTree) : Prop where
  entries : f.symbols.entries = classpath
  remembers : Remembers files f.symbols.archives

/-- How a task of an analysis ends, by whether its demand is met. Only where it is not met, errors are
counted, and a sink may refuse them. -/
inductive Analysis.Ends (sink : Sink) (classpath : List Path) (answer : Except Failure Bool)
    (errors : Nat) (w : Workspace) : EStateM.Result Failure Workspace (Unit × Findings) → Prop
  | passed {f' : Findings} {w' : Workspace} (met : answer = .ok true)
      (known : f'.IsFor classpath w.files) (files : w'.files = w.files) (none : f'.errors = errors)
      (diagnostics : w'.diagnostics = w.diagnostics) :
      Ends sink classpath answer errors w (.ok ((), f') w')
  | marked {f' : Findings} {w' : Workspace} (unmet : answer = .ok false)
      (known : f'.IsFor classpath w.files) (files : w'.files = w.files) (some : errors < f'.errors) :
      Ends sink classpath answer errors w (.ok ((), f') w')
  | failed {e : Failure} {w' : Workspace} (unknown : answer = .error e) :
      Ends sink classpath answer errors w (.error e w')
  | refused {message : String} {w' : Workspace} (unmet : answer ≠ .ok true)
      (takes : ∃ earlier d, sink.take earlier d = .error message) :
      Ends sink classpath answer errors w (.error (.crash message) w')

/-- A task of an analysis that makes a certain demand. -/
def Analysis.Demands (sink : Sink) (task : Analysis Unit) (demand : Demand) : Prop :=
  ∀ (classpath : List Path) (f : Findings) (w : Workspace), f.IsFor classpath w.files →
    Analysis.Ends sink classpath (demand.isMet classpath w.files) f.errors w (task.run f w)

namespace Analysis.Demands

variable {sink : Sink} {task next : Analysis Unit} {one two demand : Demand}

theorem nothing : Demands sink (pure ()) .none :=
  fun _ _ _ known => .passed rfl known rfl rfl rfl

theorem record (level : LogLevel) (message : String) :
    Demands sink (liftM (Build.record level message)) .none :=
  fun _ _ _ known => .passed rfl known rfl rfl rfl

theorem andThen (first : Demands sink task one) (second : Demands sink next two) :
    Demands sink (task >>= fun _ => next) (one.and two) := by
  intro classpath f w known
  rw [Demand.isMet_and, StateT.run_bind, Build.bind_run]
  have here := first classpath f w known
  generalize task.run f w = ended at here
  cases here with
  | failed unknown =>
    rw [unknown]
    exact .failed rfl
  | refused unmet takes => exact .refused (fun met => unmet (both_eq_true.mp met).1) takes
  | @passed f₁ w₁ met known₁ files errors diagnostics =>
    have later := second classpath f₁ w₁ (files ▸ known₁)
    rw [files] at later
    dsimp only
    generalize next.run f₁ w₁ = ended at later
    rw [met]
    cases later with
    | passed met' known₂ files' errors' diagnostics' =>
      rw [met']
      exact .passed rfl (files ▸ known₂) (files'.trans files) (errors'.trans errors)
        (diagnostics'.trans diagnostics)
    | marked unmet known₂ files' errors' =>
      rw [unmet]
      exact .marked rfl (files ▸ known₂) (files'.trans files) (errors ▸ errors')
    | failed unknown =>
      rw [unknown]
      exact .failed rfl
    | refused unmet takes => exact .refused (fun met => unmet (both_eq_true.mp met).2) takes
  -- Behind a mark the second task still runs, and its failure is told even though the demand is unmet.
  | @marked f₁ w₁ unmet known₁ files errors =>
    have later := second classpath f₁ w₁ (files ▸ known₁)
    rw [files] at later
    dsimp only
    generalize next.run f₁ w₁ = ended at later
    rw [unmet]
    cases later with
    | passed met' known₂ files' errors' diagnostics' =>
      rw [met']
      exact .marked rfl (files ▸ known₂) (files'.trans files) (errors' ▸ errors)
    | marked unmet' known₂ files' errors' =>
      rw [unmet']
      exact .marked rfl (files ▸ known₂) (files'.trans files) (errors.trans errors')
    | failed unknown =>
      rw [unknown]
      exact .failed rfl
    | refused unmet' takes => exact .refused (fun met => unmet' (both_eq_true.mp met).2) takes

theorem forM {α : Type} (xs : List α) {task : α → Analysis Unit} (demand : α → Demand)
    (each : ∀ x ∈ xs, Demands sink (task x) (demand x)) :
    Demands sink (xs.forM task) ⟨xs.all fun x => (demand x).clean, xs.flatMap fun x => (demand x).modules⟩ := by
  induction xs with
  | nil => exact nothing
  | cons x rest ih =>
    have later := ih fun y member => each y (List.mem_cons_of_mem x member)
    exact andThen (each x List.mem_cons_self) later

theorem report (s : Subject) (line column : Int) (message : String) :
    Demands s.configuration.sink (Analysis.report s .error line column message) ⟨false, []⟩ := by
  intro classpath f w known
  have unmet : (⟨false, []⟩ : Demand).isMet classpath w.files = .ok false := rfl
  rw [unmet, report_run, Sink.deliver_run]
  cases taken : s.configuration.sink.take w.diagnostics (s.unit.diagnostic .error line column message) with
  | ok records => exact .marked rfl ⟨known.entries, known.remembers⟩ rfl (Nat.lt_succ_self f.errors)
  | error message => exact .refused (fun never => nomatch never) ⟨_, _, taken⟩

theorem error (s : Subject) (pos : Pos) (message : String) :
    Demands s.configuration.sink (Analysis.error s pos message) ⟨false, []⟩ :=
  report s _ _ message

theorem unlessResolved (s : Subject) (module : String) {otherwise : Analysis Unit}
    (reports : Demands s.configuration.sink otherwise ⟨false, []⟩) :
    Demands s.configuration.sink (do if !(← Analysis.resolves module) then otherwise)
      ⟨true, [module]⟩ := by
  intro classpath f w known
  obtain ⟨archives, remembers, resolved⟩ := SymbolIndex.resolves_run known.remembers module
  have answer : (⟨true, [module]⟩ : Demand).isMet classpath w.files =
      isProvided classpath w.files module := by
    show both (.ok true) (both (isProvided classpath w.files module) (.ok true)) = _
    cases isProvided classpath w.files module with
    | error e => rfl
    | ok found => exact congrArg Except.ok (Bool.and_true found)
  rw [answer, StateT.run_bind, Build.bind_run, resolves_run, resolved, known.entries]
  cases isProvided classpath w.files module with
  | error e => exact .failed rfl
  | ok found =>
    have known' : Findings.IsFor { f with symbols := ⟨classpath, archives⟩ } classpath w.files :=
      ⟨rfl, remembers⟩
    cases found with
    | true => exact .passed rfl known' rfl rfl rfl
    | false => exact reports classpath _ w known'

theorem requireModule (s : Subject) (pos : Pos) (module : String) :
    Demands s.configuration.sink (requireModule s pos module) ⟨true, [module]⟩ :=
  unlessResolved s module (error s pos _)

theorem faults {α : Type} (s : Subject) (found : List (Pos × α)) (message : α → String) :
    Demands s.configuration.sink
      (found.forM fun (pos, fault) => Analysis.error s pos (message fault)) ⟨found.isEmpty, []⟩ := by
  have all := forM found (fun _ => ⟨false, []⟩)
    fun x _ => error s x.1 (message x.2)
  have demand : (⟨found.all fun _ => false, found.flatMap fun _ => []⟩ : Demand) =
      ⟨found.isEmpty, []⟩ := by
    cases found <;> simp
  rwa [demand] at all

theorem behindReport {reports : Analysis Unit} (flaw : Bool) (first : Demands sink reports ⟨false, []⟩)
    (later : Demands sink next demand) :
    Demands sink (if flaw then reports >>= fun _ => next else next)
      ⟨!flaw && demand.clean, demand.modules⟩ := by
  cases flaw with
  | true => exact andThen first later
  | false => exact later

theorem checkImport (s : Subject) (n : Node) :
    Demands s.configuration.sink (checkImport s n) ⟨!importsAll n, neededModules n⟩ := by
  unfold PluginBuild.checkImport
  split
  · rename_i pos names
    have all := forM names (fun a => ⟨true, [a.name]⟩)
      fun a _ => requireModule s pos a.name
    have demand : (⟨names.all fun _ => true, names.flatMap fun a => [a.name]⟩ : Demand) =
        ⟨true, names.map (·.name)⟩ := by
      simp [List.map_eq_flatMap]
    rwa [demand] at all
  · rename_i pos module names level
    have reports := error s pos "wildcard imports are not supported in plugin scripts"
    have whole {rest : Analysis Unit} {modules : List String}
        (later : Demands s.configuration.sink rest ⟨true, modules⟩) :=
      behindReport (names.any (·.name == "*")) reports later
    simp only [Bool.and_true] at whole
    cases module with
    | none => cases level <;> exact whole nothing
    | some module =>
      cases level with
      | succ level => exact whole nothing
      | zero =>
        rw [neededModules]
        by_cases future : module = "__future__"
        · simp only [future, ne_eq, not_true_eq_false, if_true, if_false]
          exact whole nothing
        · simp only [future, ne_eq, not_false_eq_true, if_true, if_false]
          exact whole (requireModule s pos module)
  · rename_i other other'
    have needed : neededModules n = [] := by
      unfold neededModules
      split <;> first | rfl | exact absurd rfl (other _ _) | exact absurd rfl (other' _ _ _ _)
    have plain : importsAll n = false := by
      unfold importsAll
      split <;> first | rfl | exact absurd rfl (other' _ _ _ _)
    rw [needed, plain]
    exact nothing

theorem checkImports (s : Subject) : Demands s.configuration.sink (checkImports s)
    ⟨!(Script.walk s.tree.nodes).any importsAll, (Script.walk s.tree.nodes).flatMap neededModules⟩ := by
  have all := forM (Script.walk s.tree.nodes)
    (fun n => ⟨!importsAll n, neededModules n⟩) fun n _ => checkImport s n
  rwa [← List.not_any_eq_all_not] at all

/-- The checks together ask that the tree be clean and that what it needs be provided. -/
theorem runChecks (s : Subject) : Demands s.configuration.sink (runChecks s)
    ⟨isClean s.tree, needs s.configuration.template s.tree⟩ := by
  have named : ∀ {demand : Demand} {check : Analysis Unit} (message : String),
      Demands s.configuration.sink check demand →
      Demands s.configuration.sink (do Build.record .debug message; check) demand := fun message check =>
    andThen (record .debug message) check
  have demand : (⟨isClean s.tree, needs s.configuration.template s.tree⟩ : Demand) =
      .and ⟨(declarationFaults false s.tree.body).isEmpty, []⟩
        (.and ⟨(bodyFaults s.tree).isEmpty, []⟩
          (.and ⟨!(Script.walk s.tree.nodes).any importsAll,
              (Script.walk s.tree.nodes).flatMap neededModules⟩
            (.and ⟨true, [s.configuration.template.module]⟩ .none))) := by
    simp [Demand.and, Demand.none, isClean, needs, Bool.and_assoc]
  rw [demand]
  refine andThen (named _ (faults s _ DeclarationFault.message)) ?_
  refine andThen (named _ (faults s _ BodyFault.message)) ?_
  refine andThen (named _ (checkImports s)) ?_
  exact andThen (named _ (unlessResolved s _ (report s 1 1 _))) nothing

end Analysis.Demands

/-- What the analysis of a tree asks for. -/
def demandOf (template : Template) (tree : Module) : Demand := ⟨isClean tree, needs template tree⟩

/-- Whether a source passes the analysis, or why that cannot be told. -/
def SourceUnit.passes (classpath : List Path) (template : Template) (files : FileTree)
    (unit : SourceUnit) : Except Failure Bool :=
  match unit.tree with
  | .error _ => .ok false
  | .ok tree => (demandOf template tree).isMet classpath files

/-- How the analysis of one source ends, by whether it passes. -/
inductive IsAnalyzed (c : Configuration) (answer : Except Failure Bool) (w : Workspace) :
    EStateM.Result Failure Workspace (Option Nat × SymbolIndex) → Prop
  | passed {symbols : SymbolIndex} {w' : Workspace} (met : answer = .ok true)
      (entries : symbols.entries = c.classpath) (remembers : Remembers w.files symbols.archives)
      (files : w'.files = w.files) (diagnostics : w'.diagnostics = w.diagnostics) :
      IsAnalyzed c answer w (.ok (some 0, symbols) w')
  | marked {errors : Option Nat} {symbols : SymbolIndex} {w' : Workspace} (unmet : answer = .ok false)
      (some : errors ≠ some 0) (files : w'.files = w.files) :
      IsAnalyzed c answer w (.ok (errors, symbols) w')
  | failed {e : Failure} {w' : Workspace} (unknown : answer = .error e) (files : w'.files = w.files) :
      IsAnalyzed c answer w (.error e w')
  | refused {message : String} {w' : Workspace} (unmet : answer ≠ .ok true)
      (takes : ∃ earlier d, c.sink.take earlier d = .error message) :
      IsAnalyzed c answer w (.error (.crash message) w')

theorem isAnalyzed (c : Configuration) (unit : SourceUnit) {symbols : SymbolIndex} {w : Workspace}
    (entries : symbols.entries = c.classpath) (remembers : Remembers w.files symbols.archives) :
    IsAnalyzed c (unit.passes c.classpath c.template w.files) w (analyze c unit symbols w) := by
  have same := ((analyze_reads c unit symbols).agrees w).files
  unfold analyze SourceUnit.passes at *
  cases parsed : unit.tree with
  | error report =>
    dsimp only
    rw [Build.bind_run, Sink.deliver_run]
    cases taken : c.sink.take w.diagnostics (report.diagnostic unit.path unit.text) with
    | ok records => exact .marked rfl nofun rfl
    | error message => exact .refused nofun ⟨_, _, taken⟩
  | ok tree =>
    rw [parsed] at same
    dsimp only at same ⊢
    have ended := Analysis.Demands.runChecks ⟨c, unit, tree⟩ c.classpath ⟨symbols, 0⟩ w
      ⟨entries, remembers⟩
    rw [Build.bind_run] at same ⊢
    generalize (runChecks ⟨c, unit, tree⟩).run ⟨symbols, 0⟩ w = r at ended same
    cases ended with
    | @passed f w' met known files none diagnostics =>
      obtain ⟨symbols', errors⟩ := f
      obtain rfl : errors = 0 := none
      exact .passed met known.entries known.remembers files diagnostics
    | @marked f w' unmet known files some =>
      refine .marked unmet ?_ files
      intro zero
      have positive : 0 < f.errors := some
      rw [Option.some.inj zero] at positive
      exact absurd positive (Nat.lt_irrefl 0)
    | failed unknown => exact .failed unknown same
    | refused unmet takes => exact .refused unmet takes

theorem analyzeAll_cons_run (c : Configuration) (symbols : SymbolIndex) (unit : SourceUnit)
    (rest : List SourceUnit) (w : Workspace) : analyzeAll c symbols (unit :: rest) w =
      match analyze c unit symbols w with
      | .error e w => .error e w
      | .ok (errors, symbols) w =>
        match analyzeAll c symbols rest w with
        | .error e w => .error e w
        | .ok (analysed, failed) w =>
          match errors, unit.tree with
          | some 0, .ok tree => .ok (⟨c, unit, tree⟩ :: analysed, failed) w
          | _, _ => .ok (analysed, true) w := by
  rw [analyzeAll, Build.bind_run]
  cases analyze c unit symbols w with
  | error e w => rfl
  | ok result w =>
    obtain ⟨errors, symbols⟩ := result
    dsimp only
    rw [Build.bind_run]
    cases analyzeAll c symbols rest w with
    | error e w => rfl
    | ok result w =>
      obtain ⟨analysed, failed⟩ := result
      cases unit.tree <;> match errors with
        | none | some 0 | some (_ + 1) => rfl

end PluginBuild
