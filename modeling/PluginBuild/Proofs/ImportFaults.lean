import PluginBuild.Proofs.Passing
import PluginBuild.Proofs.Providers
import PluginBuild.Proofs.Script.Nested

/-!
What the check of imports reports: all that is wrong with the imports of a script, at whatever depth they
stand, and nothing else. A module that cannot be looked up ends the check.
-/

namespace PluginBuild

open PluginBuild.Files PluginBuild.Script PluginBuild.Text

inductive ImportFault where
  | wildcard
  | unresolved (module : String)
  deriving DecidableEq, Repr

def ImportFault.message : ImportFault → String
  | wildcard => "wildcard imports are not supported in plugin scripts"
  | unresolved module => s!"unresolved module: {module}"

/-- What is wrong with an import where some modules are missing. -/
def importFaults (isMissing : String → Bool) (s : Stmt) : List (Pos × ImportFault) :=
  (if importsAll (.stmt s) then [(s.pos, .wildcard)] else []) ++
    ((neededModules (.stmt s)).filter isMissing).map fun module => (s.pos, .unresolved module)

def isMissing (classpath : List Path) (files : FileTree) (module : String) : Bool :=
  match isProvided classpath files module with
  | .ok found => !found
  | .error _ => false

def Subject.importDiagnostic (s : Subject) (found : Pos × ImportFault) : Diagnostic :=
  s.unit.diagnostic .error (orOne (some found.1.line)) (found.1.column + 1) found.2.message

/-- How a task ends that looks up modules and reports faults: it looks up all of them and reports each
fault, or ends at the first module that cannot be looked up, or at a fault that the sink refuses. -/
inductive Analysis.Finds (s : Subject) (classpath : List Path) (faults : List (Pos × ImportFault))
    (modules : List String) (f : Findings) (w : Workspace) :
    EStateM.Result Failure Workspace (Unit × Findings) → Prop
  | finished {f' : Findings} {w' : Workspace}
      (answered : ∀ module ∈ modules, ∃ found, isProvided classpath w.files module = .ok found)
      (known : f'.IsFor classpath w.files) (files : w'.files = w.files)
      (reported : w'.diagnostics = w.diagnostics ++ faults.map s.importDiagnostic)
      (errors : f'.errors = f.errors + faults.length) : Finds s classpath faults modules f w (.ok ((), f') w')
  | failed {e : Failure} {w' : Workspace} {front back : List String} {module : String}
      {told : List (Pos × ImportFault)} (split : modules = front ++ module :: back)
      (answered : ∀ other ∈ front, ∃ found, isProvided classpath w.files other = .ok found)
      (unanswered : isProvided classpath w.files module = .error e) (part : told <+: faults)
      (reported : w'.diagnostics = w.diagnostics ++ told.map s.importDiagnostic) :
      Finds s classpath faults modules f w (.error e w')
  | refused {message : String} {w' : Workspace} {front back : List (Pos × ImportFault)}
      {last : Pos × ImportFault} (split : faults = front ++ last :: back)
      (refuses : s.configuration.sink.take (w.diagnostics ++ front.map s.importDiagnostic)
        (s.importDiagnostic last) = .error message)
      (reported : w'.diagnostics = w.diagnostics ++ (front ++ [last]).map s.importDiagnostic) :
      Finds s classpath faults modules f w (.error (.crash message) w')

/-- A task of an analysis that looks up some modules and reports some faults. -/
def Analysis.Searches (s : Subject) (classpath : List Path) (files : FileTree) (task : Analysis Unit)
    (faults : List (Pos × ImportFault)) (modules : List String) : Prop :=
  ∀ (f : Findings) (w : Workspace), w.files = files → f.IsFor classpath files →
    Analysis.Finds s classpath faults modules f w (task.run f w)

namespace Analysis.Searches

variable {s : Subject} {classpath : List Path} {files : FileTree} {task next : Analysis Unit}
  {faults faults' : List (Pos × ImportFault)} {modules modules' : List String}

theorem nothing : Searches s classpath files (pure ()) [] [] := by
  rintro f w rfl known
  exact .finished (List.forall_mem_nil _) known rfl (List.append_nil _).symm rfl

theorem andThen (first : Searches s classpath files task faults modules)
    (second : Searches s classpath files next faults' modules') :
    Searches s classpath files (task >>= fun _ => next) (faults ++ faults') (modules ++ modules') := by
  rintro f w rfl known
  rw [StateT.run_bind, Build.bind_run]
  have here := first f w rfl known
  generalize task.run f w = ended at here
  cases here with
  | @failed e w₁ front back module told split answered unanswered part reported =>
    exact .failed (by rw [split, List.append_assoc]; rfl) answered unanswered
      (part.trans (List.prefix_append _ _)) reported
  | @refused message w₁ front back last split refuses reported =>
    exact .refused (by rw [split, List.append_assoc]; rfl) refuses reported
  | @finished f₁ w₁ answered known₁ unchanged reported errors =>
    have both {told : List (Pos × ImportFault)} {ds : List Diagnostic}
        (reported' : ds = w₁.diagnostics ++ told.map s.importDiagnostic) :
        ds = w.diagnostics ++ (faults ++ told).map s.importDiagnostic := by
      rw [reported', reported, List.map_append, List.append_assoc]
    have later := second f₁ w₁ unchanged known₁
    dsimp only
    generalize next.run f₁ w₁ = ended at later
    cases later with
    | finished answered' known₂ unchanged' reported' errors' =>
      rw [unchanged] at answered' known₂ unchanged'
      refine .finished (List.forall_mem_append.mpr ⟨answered, answered'⟩) known₂ unchanged'
        (both reported') ?_
      rw [errors', errors, List.length_append, Nat.add_assoc]
    | failed split answered' unanswered part reported' =>
      rw [unchanged] at answered' unanswered
      exact .failed (by rw [split, List.append_assoc]) (List.forall_mem_append.mpr ⟨answered, answered'⟩)
        unanswered ((List.prefix_append_right_inj faults).mpr part) (both reported')
    | @refused message w₂ front back last split refuses reported' =>
      refine .refused (by rw [split, List.append_assoc]) ?_ (by rw [List.append_assoc]; exact both reported')
      rw [List.map_append, ← List.append_assoc, ← reported]
      exact refuses

theorem forM {α : Type} {xs : List α} {task : α → Analysis Unit} (faults : α → List (Pos × ImportFault))
    (modules : α → List String)
    (each : ∀ x ∈ xs, Searches s classpath files (task x) (faults x) (modules x)) :
    Searches s classpath files (xs.forM task) (xs.flatMap faults) (xs.flatMap modules) := by
  induction xs with
  | nil => exact nothing
  | cons x rest ih =>
    have later := ih fun y member => each y (List.mem_cons_of_mem x member)
    exact andThen (each x List.mem_cons_self) later

theorem error (pos : Pos) (fault : ImportFault) :
    Searches s classpath files (Analysis.error s pos fault.message) [(pos, fault)] [] := by
  rintro f w rfl known
  have ran := report_run s .error (orOne (some pos.line)) (pos.column + 1) fault.message f w
  rw [show (Analysis.error s pos fault.message).run f w = _ from ran, Sink.deliver_run]
  cases taken : s.configuration.sink.take w.diagnostics (s.importDiagnostic (pos, fault)) with
  | ok records =>
    rw [show s.unit.diagnostic _ _ _ _ = s.importDiagnostic (pos, fault) from rfl, taken]
    exact .finished (List.forall_mem_nil _) ⟨known.entries, known.remembers⟩ rfl rfl rfl
  | error message =>
    rw [show s.unit.diagnostic _ _ _ _ = s.importDiagnostic (pos, fault) from rfl, taken]
    exact .refused (List.nil_append _).symm (by rw [List.map_nil, List.append_nil, taken]) rfl

theorem requireModule (pos : Pos) (module : String) :
    Searches s classpath files (requireModule s pos module)
      (([module].filter (isMissing classpath files)).map fun m => (pos, .unresolved m)) [module] := by
  rintro f w rfl known
  obtain ⟨archives, remembers, resolved⟩ := SymbolIndex.resolves_run known.remembers module
  unfold PluginBuild.requireModule
  rw [StateT.run_bind, Build.bind_run, resolves_run, resolved, known.entries]
  cases answer : isProvided classpath w.files module with
  | error e =>
    exact .failed (List.nil_append _).symm (List.forall_mem_nil _) answer List.nil_prefix
      (List.append_nil _).symm
  | ok found =>
    have known' : Findings.IsFor { f with symbols := ⟨classpath, archives⟩ } classpath w.files :=
      ⟨rfl, remembers⟩
    have answered : ∀ m ∈ [module], ∃ found, isProvided classpath w.files m = .ok found :=
      List.forall_mem_singleton.mpr ⟨found, answer⟩
    cases found with
    | true =>
      rw [show [module].filter (isMissing classpath w.files) = [] by simp [isMissing, answer]]
      exact .finished answered known' rfl (List.append_nil _).symm rfl
    | false =>
      rw [show [module].filter (isMissing classpath w.files) = [module] by simp [isMissing, answer]]
      have reports := error (s := s) pos (.unresolved module) _ w rfl known'
      change Finds s classpath [(pos, .unresolved module)] [module] f w
        ((Analysis.error s pos (ImportFault.unresolved module).message).run _ w)
      generalize (Analysis.error s pos (ImportFault.unresolved module).message).run _ w = ended at reports ⊢
      cases reports with
      | finished _ known₂ files reported errors => exact .finished answered known₂ files reported errors
      | failed split => simp at split
      | refused split refuses reported => exact .refused split refuses reported

theorem behindWildcard {flaw : Bool} {pos : Pos} (later : Searches s classpath files next faults modules) :
    Searches s classpath files
      (if flaw then Analysis.error s pos ImportFault.wildcard.message >>= fun _ => next else next)
      ((if flaw then [(pos, .wildcard)] else []) ++ faults) modules := by
  cases flaw with
  | true => exact andThen (error pos .wildcard) later
  | false => exact later

theorem checkImport (n : Node) : Searches s classpath files (checkImport s n)
    (n.import?.toList.flatMap (importFaults (isMissing classpath files)))
    (n.import?.toList.flatMap fun i => neededModules (.stmt i)) := by
  unfold PluginBuild.checkImport
  split
  · rename_i pos names
    have all : Searches s classpath files (names.forM fun a => PluginBuild.requireModule s pos a.name) _ _ :=
      forM _ _ fun a _ => requireModule pos a.name
    rw [← List.map_flatMap, ← List.filter_flatMap, ← List.map_eq_flatMap] at all
    simpa [Node.import?, importFaults, importsAll, neededModules, Stmt.pos] using all
  · rename_i pos module names level
    rw [Node.import?, Option.toList_some, List.flatMap_singleton, List.flatMap_singleton]
    cases module with
    | none => cases level <;> exact behindWildcard nothing
    | some module =>
      cases level with
      | succ level => exact behindWildcard nothing
      | zero =>
        rw [importFaults, neededModules]
        by_cases future : module = "__future__"
        · simp only [future, ne_eq, not_true_eq_false, if_true, if_false]
          exact behindWildcard nothing
        · simp only [future, ne_eq, not_false_eq_true, if_true, if_false]
          exact behindWildcard (requireModule pos module)
  · rename_i other other'
    have none : n.import? = none := by
      unfold Node.import?
      split <;> first | rfl | exact absurd rfl (other _ _) | exact absurd rfl (other' _ _ _ _)
    rw [none]
    exact nothing

theorem checkImports (s : Subject) : Searches s classpath files (checkImports s)
    (((walk s.tree.nodes).filterMap Node.import?).flatMap (importFaults (isMissing classpath files)))
    (((walk s.tree.nodes).filterMap Node.import?).flatMap fun i => neededModules (.stmt i)) := by
  have all : Searches s classpath files (PluginBuild.checkImports s) _ _ :=
    forM _ _ fun n _ => checkImport n
  rwa [← List.flatMap_assoc, ← List.flatMap_assoc, ← List.filterMap_eq_flatMap_toList] at all

end Analysis.Searches

section
variable {s : Subject} {classpath : List Path} {f : Findings} {w : Workspace}

/-- The check finds what is wrong with each import of the script, though not in the order of the text. -/
theorem checkImports_finds (known : f.IsFor classpath w.files) : ∃ faults modules,
    faults.Perm (s.tree.imports.flatMap (importFaults (isMissing classpath w.files))) ∧
    modules.Perm (s.tree.imports.flatMap fun i => neededModules (.stmt i)) ∧
    Analysis.Finds s classpath faults modules f w ((checkImports s).run f w) :=
  ⟨_, _, s.tree.walk_imports.flatMap_right _, s.tree.walk_imports.flatMap_right _,
    Analysis.Searches.checkImports s f w rfl known⟩

theorem of_importFaults_eq_nil {isMissing : String → Bool} {i : Stmt} (clean : importFaults isMissing i = []) :
    importsAll (.stmt i) = false ∧ ∀ module ∈ neededModules (.stmt i), isMissing module = false := by
  obtain ⟨plain, found⟩ := List.append_eq_nil_iff.mp clean
  refine ⟨by simpa using plain, fun module needed => ?_⟩
  have none := List.filter_eq_nil_iff.mp (List.map_eq_nil_iff.mp found) module needed
  simpa using none

theorem isProvided_of_not_missing {files : FileTree} {module : String} {found : Bool}
    (answer : isProvided classpath files module = .ok found)
    (there : isMissing classpath files module = false) : isProvided classpath files module = .ok true := by
  rw [isMissing, answer] at there
  rw [answer, show found = true by simpa using there]

theorem imports_of_passing (known : f.IsFor classpath w.files) {f' : Findings} {w' : Workspace}
    (done : (checkImports s).run f w = .ok ((), f') w') (none : f'.errors = f.errors) :
    ∀ i ∈ s.tree.imports, importsAll (.stmt i) = false ∧
      ∀ module ∈ neededModules (.stmt i), isProvided classpath w.files module = .ok true := by
  obtain ⟨faults, modules, all, needed, finds⟩ := checkImports_finds (s := s) known
  rw [done] at finds
  cases finds with
  | finished answered _ _ _ errors =>
    have clean : faults = [] := List.length_eq_zero_iff.mp (by omega)
    rw [clean] at all
    intro i member
    have here := List.flatMap_eq_nil_iff.mp all.nil_eq.symm i member
    obtain ⟨plain, there⟩ := of_importFaults_eq_nil here
    refine ⟨plain, fun module need => ?_⟩
    obtain ⟨found, answer⟩ := answered module (needed.mem_iff.mpr (List.mem_flatMap.mpr ⟨i, member, need⟩))
    exact isProvided_of_not_missing answer (there module need)

/-- Where every module of the imports in a script can be looked up, the check reports what is wrong with
them, at every depth, and nothing else; a module that is too long for the files ends it. -/
theorem checkImports_exact (known : f.IsFor classpath w.files) (opens : ArchivesOpen w.files classpath) :
    (∃ faults modules,
      faults.Perm (s.tree.imports.flatMap (importFaults (isMissing classpath w.files))) ∧
      modules.Perm (s.tree.imports.flatMap fun i => neededModules (.stmt i)) ∧
      Analysis.Finds s classpath faults modules f w ((checkImports s).run f w)) ∧
    (∀ f' w', (checkImports s).run f w = .ok ((), f') w' → f'.errors = f.errors → ∀ i ∈ s.tree.imports,
      importsAll (.stmt i) = false ∧
        ∀ module ∈ neededModules (.stmt i), isProvided classpath w.files module = .ok true) ∧
    (∀ module e, isProvided classpath w.files module = .error e →
      ∃ path, e = .file (.refused .nameTooLong path)) ∧
    ∀ module, IsModuleName (topModule module) →
      IsReply w.files classpath (.resolves module) (.resolved (isProvided classpath w.files module)) :=
  ⟨checkImports_finds known, fun _ _ => imports_of_passing known, fun _ _ => nameTooLong_of_isProvided opens,
    fun _ => isProvided_isReply opens⟩

end

/-- A script of which only the tree matters. -/
def importingSubject (tree : Module) (classpath : List Path) : Subject :=
  ⟨⟨classpath, .plugin, "m", .collecting, [], true⟩,
    ⟨Path.ofString "a.plugin.py", "", [], .ok tree, none⟩, tree⟩

/-- A function with imports in a guarded block, in its handler and in a case of a match. -/
def nestedImports : Module :=
  ⟨[.function ⟨1, 0⟩ false "f" (.mk [] [] none [] [] none [])
    [.try ⟨2, 1⟩ false
      [.importModules ⟨3, 2⟩ [⟨⟨3, 9⟩, "pkg.x", none⟩, ⟨⟨3, 16⟩, "gone.x", none⟩]]
      [.mk ⟨4, 1⟩ none none [.importFrom ⟨5, 2⟩ (some "gone") [⟨⟨5, 19⟩, "*", none⟩] 0]]
      [.match ⟨7, 2⟩ (.name ⟨7, 8⟩ "x" .load)
        [.mk (.capture ⟨8, 8⟩ none none) none
          [.importFrom ⟨9, 4⟩ none [⟨⟨9, 18⟩, "*", none⟩] 1,
            .importFrom ⟨10, 4⟩ (some "__future__") [⟨⟨10, 27⟩, "division", none⟩] 0]]]
      []] [] none]⟩

def oneArchive : List Path := [Path.ofString "z.zip"]

/-- What is imported from a package by a relative name, and from the future, is not looked up. -/
theorem nestedImports_reported :
    ArchivesOpen sampleLibraries oneArchive ∧ ∃ f' w',
      (checkImports (importingSubject nestedImports oneArchive)).run
        ⟨.ofEntries oneArchive, 0⟩ ⟨sampleLibraries, [], [], [], []⟩ = .ok ((), f') w' ∧
      (w'.diagnostics.map fun d => (d.line, d.column, d.message)).Perm
        [(3, 3, "unresolved module: gone.x"),
          (5, 3, "wildcard imports are not supported in plugin scripts"), (5, 3, "unresolved module: gone"),
          (9, 5, "wildcard imports are not supported in plugin scripts")] := by
  have opens : ArchivesOpen sampleLibraries oneArchive := by decide +kernel
  refine ⟨opens, ?_⟩
  have known : Findings.IsFor ⟨.ofEntries oneArchive, 0⟩ oneArchive sampleLibraries :=
    ⟨rfl, .nothing sampleLibraries⟩
  have found : nestedImports.imports.flatMap (importFaults (isMissing oneArchive sampleLibraries)) =
      [(⟨3, 2⟩, .unresolved "gone.x"), (⟨5, 2⟩, .wildcard), (⟨5, 2⟩, .unresolved "gone"),
        (⟨9, 4⟩, .wildcard)] := by decide +kernel
  have looked : ∀ module ∈ nestedImports.imports.flatMap fun i => neededModules (.stmt i),
      (isProvided oneArchive sampleLibraries module).toBool = true := by decide +kernel
  obtain ⟨⟨faults, modules, all, needed, finds⟩, -⟩ := checkImports_exact
    (s := importingSubject nestedImports oneArchive) (w := ⟨sampleLibraries, [], [], [], []⟩) known opens
  rw [show (importingSubject nestedImports _).tree = nestedImports from rfl] at all needed
  generalize (checkImports _).run _ _ = ended at finds ⊢
  cases finds with
  | finished answered known' files reported errors =>
    refine ⟨_, _, rfl, ?_⟩
    rw [reported]
    rw [found] at all
    exact (all.map _).map _
  | @failed e w' front back module told split answered unanswered =>
    have there := looked module (needed.mem_iff.mp (by rw [split]; simp))
    rw [unanswered] at there
    exact nomatch there
  | refused split refuses => exact nomatch refuses

def importOf (module : String) : Module := ⟨[.importModules ⟨1, 0⟩ [⟨⟨1, 7⟩, module, none⟩]]⟩

/-- A module whose name is too long for a file is not reported, though it is nowhere. -/
theorem long_import_unreported :
    ArchivesOpen emptyLibrary [Path.ofString "lib"] ∧ topModule (nameOfLength 256) ∉ builtinModules ∧
      ¬ Provides emptyLibrary (Path.ofString "lib") (topModule (nameOfLength 256)) ∧
      (finalState ((checkImports (importingSubject (importOf (nameOfLength 256)) [Path.ofString "lib"])).run
        ⟨.ofEntries [Path.ofString "lib"], 0⟩ ⟨emptyLibrary, [], [], [], []⟩)).diagnostics = [] := by
  have positive : (256 : Nat) ≠ 0 := by decide
  have top := topModule_of_isModuleName (isModuleName_nameOfLength positive)
  obtain ⟨missing, path, told⟩ := providerOf_nameOfLength (show maxNameLength < 256 by decide)
  have other : topModule (nameOfLength 256) ∉ builtinModules := by
    have short : ∀ name ∈ builtinModules, name.utf8ByteSize < 256 := by decide
    intro builtin
    have size := short _ builtin
    rw [top, utf8ByteSize_nameOfLength] at size
    exact absurd size (by decide)
  have unanswered : isProvided [Path.ofString "lib"] emptyLibrary (nameOfLength 256) =
      .error (.file (.refused .nameTooLong path)) := by
    rw [isProvided, if_neg (by simpa using other), providedBy_eq, top, told]
    rfl
  refine ⟨by decide +kernel, other, by rwa [top], ?_⟩
  have known : Findings.IsFor ⟨.ofEntries [Path.ofString "lib"], 0⟩ [Path.ofString "lib"] emptyLibrary :=
    ⟨rfl, .nothing emptyLibrary⟩
  obtain ⟨faults, modules, all, -, finds⟩ := checkImports_finds (w := ⟨emptyLibrary, [], [], [], []⟩)
    (s := importingSubject (importOf (nameOfLength 256)) [Path.ofString "lib"]) known
  have passed : isMissing [Path.ofString "lib"] emptyLibrary (nameOfLength 256) = false := by
    rw [isMissing, unanswered]
  have none : (importOf (nameOfLength 256)).imports.flatMap
      (importFaults (isMissing [Path.ofString "lib"] emptyLibrary)) = [] := by
    simp [importOf, Module.imports, importsOf, Stmt.imports, importFaults, importsAll, neededModules, passed]
  obtain rfl : faults = [] := List.perm_nil.mp (none ▸ all)
  generalize (checkImports _).run _ _ = ended at finds ⊢
  cases finds with
  | finished _ _ _ reported => exact reported
  | failed _ _ _ part reported =>
    rw [List.prefix_nil.mp part] at reported
    exact reported
  | refused split => simp at split

end PluginBuild
