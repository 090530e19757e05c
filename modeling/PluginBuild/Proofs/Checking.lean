import PluginBuild.Proofs.Tasks
import PluginBuild.Toolchain

/-!
Analysis only reads, and a source in which it counts no error has no faulty declaration. So the
package of a script that passes is a package's name.
-/

namespace PluginBuild

open PluginBuild.Files PluginBuild.Script PluginBuild.Text

/-- A look-up that does not fail for want of the file of a class. -/
def Lookup.FailsPlainly {α : Type} (lookup : Lookup α) : Prop :=
  ∀ s e s', lookup s = .error e s' → ¬ e.IsArtifactMissing

namespace Lookup.FailsPlainly

variable {α β : Type}

theorem pure (a : α) : FailsPlainly (Pure.pure a : Lookup α) := fun _ _ _ failed => nomatch failed

theorem get : FailsPlainly (get : Lookup (List (Path × OpenArchive))) :=
  fun _ _ _ failed => nomatch failed

theorem throw {e : Failure} (other : ¬ e.IsArtifactMissing) : FailsPlainly (throw e : Lookup α) := by
  rintro s _ _ ⟨⟩
  exact other

theorem bind {lookup : Lookup α} {next : α → Lookup β} (first : FailsPlainly lookup)
    (second : ∀ a, FailsPlainly (next a)) : FailsPlainly (lookup >>= next) := by
  intro s e s' failed
  cases ended : lookup s with
  | ok a s₁ =>
    refine second a s₁ e s' ?_
    simpa [Bind.bind, EStateM.bind, ended] using failed
  | error e₁ s₁ =>
    obtain ⟨rfl, rfl⟩ : e₁ = e ∧ s₁ = s' := by
      simpa [Bind.bind, EStateM.bind, ended] using failed
    exact first s e₁ s₁ ended

theorem ask (answer : Except FileError α) : FailsPlainly (Lookup.ask answer) := by
  cases answer with
  | ok a => exact pure a
  | error e => exact throw fun ⟨_, _, same⟩ => nomatch same

theorem archiveModules (files : FileTree) (entry : Path) :
    FailsPlainly (Lookup.archiveModules files entry) := by
  refine bind get fun archives => ?_
  split
  · exact pure _
  · refine bind (ask _) fun content => ?_
    split
    · refine throw ?_
      rintro ⟨path, source, same⟩
      unfold archiveFailure at same
      split at same <;> exact nomatch same
    · exact bind (fun _ _ _ failed => nomatch failed) fun _ => pure _

theorem isArchive (files : FileTree) (entry : Path) :
    FailsPlainly (Lookup.isArchive files entry) := by
  refine bind get fun archives => ?_
  split
  · exact pure _
  · refine bind (ask _) fun isFile => ?_
    split
    · refine bind (ask _) fun content => ?_
      split
      · exact throw fun ⟨_, _, same⟩ => nomatch same
      · exact pure _
    · exact pure _

theorem provides (files : FileTree) (entry : Path) (name : String) :
    FailsPlainly (Lookup.provides files entry name) := by
  refine bind (ask _) fun isDirectory => ?_
  split
  · exact ask _
  · refine bind (isArchive files entry) fun isArchive => ?_
    split
    · exact bind (archiveModules files entry) fun _ => pure _
    · exact pure _

theorem locate (files : FileTree) (name : String) (entries : List Path) :
    FailsPlainly (Lookup.locate files name entries) := by
  induction entries with
  | nil => exact pure _
  | cons entry rest ih =>
    refine bind (provides files entry name) fun found => ?_
    split
    · exact pure _
    · exact ih

end Lookup.FailsPlainly

theorem SymbolIndex.resolves_error {index : SymbolIndex} {files : FileTree} {module : String}
    {e : Failure} {index' : SymbolIndex} (failed : index.resolves files module = (.error e, index')) :
    ¬ e.IsArtifactMissing := by
  unfold SymbolIndex.resolves SymbolIndex.locate SymbolIndex.run at failed
  dsimp only at failed
  split at failed
  · exact nomatch failed
  · cases ended : Lookup.locate files (topModule (topModule module)) index.entries index.archives with
    | ok entry archives => simp [ended] at failed
    | error e₁ archives =>
      rw [ended] at failed
      obtain ⟨rfl, -⟩ : e₁ = e ∧ _ := by simpa using failed
      exact Lookup.FailsPlainly.locate _ _ _ _ _ _ ended

theorem Analysis.resolves_run (module : String) (f : Findings) (w : Workspace) :
    (Analysis.resolves module).run f w = match f.symbols.resolves w.files module with
      | (.ok found, symbols) => .ok (found, { f with symbols }) w
      | (.error e, _) => .error e w := by
  have asked : (getThe Workspace : Build Workspace) w = .ok w w := rfl
  unfold Analysis.resolves
  rw [StateT.run_bind, Build.bind_run]
  show (liftM (getThe Workspace : Build Workspace) >>= _ : Analysis Bool).run f w = _
  rw [StateT.run_bind, Build.bind_run, Build.lift_run, asked]
  dsimp only
  generalize f.symbols.resolves w.files module = found
  obtain ⟨result, symbols⟩ := found
  cases result <;> rfl

namespace Analysis.Reports

theorem report (s : Subject) (severity : Severity) (line column : Int) (message : String) :
    Reports (if severity.isError then 1 else 0) (Analysis.report s severity line column message) := by
  unfold Analysis.report
  have delivered := lift (.deliver s.configuration.sink (s.unit.diagnostic severity line column message))
  split
  · refine bind (m := 1) ⟨fun f => .pure ((), _), ?_⟩ fun _ => delivered
    rintro f w _ _ _ ⟨⟩
    exact Nat.le_refl _
  · exact delivered

theorem error (s : Subject) (pos : Pos) (message : String) :
    Reports 1 (Analysis.error s pos message) :=
  report s .error _ _ message

theorem resolves (module : String) : Reports 0 (Analysis.resolves module) := by
  refine ⟨fun f => ⟨fun w => ?_, fun w e w' failed => ?_⟩, fun f w a f' w' done => ?_⟩
  · rw [resolves_run]
    split <;> rfl
  · rw [resolves_run] at failed
    split at failed
    · exact nomatch failed
    · rename_i e₁ index ended
      cases failed
      exact SymbolIndex.resolves_error ended
  · rw [resolves_run] at done
    split at done
    · cases done
      exact Nat.le_refl _
    · exact nomatch done

theorem requireModule (s : Subject) (pos : Pos) (module : String) :
    Reports 0 (requireModule s pos module) := by
  refine andThen (resolves module) fun found => ?_
  split
  · exact (error s pos _).mono (Nat.zero_le 1)
  · exact pure ()

theorem checkImport (s : Subject) (n : Node) : Reports 0 (checkImport s n) := by
  unfold PluginBuild.checkImport
  have unlessFuture : ∀ pos module, Reports 0 (if module ≠ "__future__" then
      PluginBuild.requireModule s pos module else Pure.pure ()) := by
    intro pos module
    split
    · exact requireModule s pos _
    · exact pure ()
  split
  · exact (forM fun a _ => requireModule s _ a.name).mono (Nat.zero_le _)
  · dsimp only
    split
    · refine andThen ((error s _ _).mono (Nat.zero_le 1)) fun _ => ?_
      split
      · exact unlessFuture _ _
      · exact pure ()
    · split
      · exact unlessFuture _ _
      · exact pure ()
  · exact pure ()

theorem checkTemplate (s : Subject) : Reports 0 (checkTemplate s) := by
  refine andThen (resolves s.configuration.template.module) fun found => ?_
  split
  · exact (report s .error 1 1 _).mono (Nat.zero_le _)
  · exact pure ()

theorem checkImports (s : Subject) : Reports 0 (checkImports s) :=
  (forM fun n _ => checkImport s n).mono (Nat.zero_le _)

theorem checkBody (s : Subject) : Reports 0 (checkBody s) :=
  (forM fun (_, fault) _ => error s _ fault.message).mono (Nat.zero_le _)

theorem checkDeclarations (s : Subject) :
    Reports (declarationFaults false s.tree.body).length (checkDeclarations s) :=
  (forM fun (_, fault) _ => error s _ fault.message).mono (Nat.le_of_eq (Nat.mul_one _).symm)

theorem runChecks (s : Subject) :
    Reports (declarationFaults false s.tree.body).length (runChecks s) := by
  have named : ∀ {n : Nat} {check : Analysis Unit} (message : String), Reports n check →
      Reports n (do Build.record .debug message; check) := fun message reports =>
    (bind (lift (.record .debug message)) fun _ => reports).mono (Nat.le_of_eq (Nat.zero_add _).symm)
  refine (bind (named _ (checkDeclarations s)) fun _ => bind (named _ (checkBody s)) fun _ =>
    bind (named _ (checkImports s)) fun _ => bind (named _ (checkTemplate s)) fun _ => pure ()).mono ?_
  omega

end Analysis.Reports

theorem analyze_reads (c : Configuration) (unit : SourceUnit) (symbols : SymbolIndex) :
    OnlyReads (analyze c unit symbols) := by
  unfold analyze
  split
  · exact .bind (.deliver c.sink _) fun _ => .pure _
  · exact .bind ((Analysis.Reports.runChecks _).reads _) fun _ => .pure _

theorem declarationFaults_of_analyze {c : Configuration} {unit : SourceUnit}
    {symbols symbols' : SymbolIndex} {w w' : Workspace}
    (clean : analyze c unit symbols w = .ok (some 0, symbols') w') :
    ∃ tree, unit.tree = .ok tree ∧ declarationFaults false tree.body = [] := by
  unfold analyze at clean
  cases parsed : unit.tree with
  | error report =>
    rw [parsed] at clean
    obtain ⟨_, _, -, same⟩ := Build.bind_eq_ok clean
    exact nomatch same
  | ok tree =>
    rw [parsed] at clean
    obtain ⟨⟨_, findings⟩, w₁, ran, same⟩ := Build.bind_eq_ok clean
    have counted := (Analysis.Reports.runChecks ⟨c, unit, tree⟩).counts _ _ _ _ _ ran
    have none : findings.errors = 0 :=
      Option.some.inj (Prod.mk.inj (EStateM.Result.ok.inj same).1).1
    refine ⟨tree, rfl, List.length_eq_zero_iff.mp (Nat.le_zero.mp ?_)⟩
    calc (declarationFaults false tree.body).length
        ≤ 0 + (declarationFaults false tree.body).length := Nat.le_add_left _ 0
      _ ≤ findings.errors := counted
      _ = 0 := none

theorem assignmentFault?_alone {isDeclared : Bool} {target value : Expr}
    (clean : assignmentFault? isDeclared [target] value = none) :
    ∃ package, value.text? = some package ∧ isPackageName package = true := by
  unfold assignmentFault? at clean
  rw [if_neg (by simp)] at clean
  split at clean
  · exact nomatch clean
  · rename_i package text
    refine ⟨package, text, ?_⟩
    by_cases valid : isPackageName package = true
    · exact valid
    · simp [valid] at clean

/-- The first declaration among faultless ones gives the name of a package. The check and the
declared package go over the same statements, and each other kind of statement is no declaration to
either. -/
theorem isPackageName_of_faultless {isDeclared : Bool} {body : List Stmt}
    (clean : declarationFaults isDeclared body = []) {value : Expr}
    (first : body.findSome? Stmt.packageValue? = some value) :
    ∃ package, value.text? = some package ∧ isPackageName package = true := by
  fun_induction declarationFaults isDeclared body with
  | case1 => exact nomatch first
  | case2 isDeclared pos targets value' rest declares ih =>
    obtain ⟨alone, clean⟩ := List.append_eq_nil_iff.mp clean
    have faultless : assignmentFault? isDeclared targets value' = none := by
      simpa using alone
    match targets with
    | [target] =>
      have declares : target.isPackageTarget = true := by simpa using declares
      rw [List.findSome?_cons, Stmt.packageValue?, if_pos declares] at first
      cases first
      exact assignmentFault?_alone faultless
    | [] => exact absurd declares (by simp)
    | one :: two :: more => simp [assignmentFault?] at faultless
  | case3 isDeclared pos targets value' rest other ih =>
    refine ih clean ?_
    have none : (Stmt.assign pos targets value').packageValue? = none := by
      match targets with
      | [target] =>
        have other : target.isPackageTarget = false := by simpa using other
        rw [Stmt.packageValue?, if_neg (by simp [other])]
      | [] | _ :: _ :: _ => rfl
    rwa [List.findSome?_cons, none] at first
  | case4 | case6 => exact nomatch clean
  | case5 _ _ _ _ _ _ _ ih | case7 _ _ _ _ _ _ _ _ ih =>
    exact ih clean (by simpa [List.findSome?_cons, Stmt.packageValue?] using first)
  | case8 isDeclared statement rest notAssign _ _ ih =>
    refine ih clean ?_
    have none : statement.packageValue? = none := by
      unfold Stmt.packageValue?
      split
      · exact absurd rfl (notAssign _ _ _)
      · rfl
    rwa [List.findSome?_cons, none] at first

theorem isPackageName_of_package? {m : Module} (clean : declarationFaults false m.body = [])
    {package : String} (declared : m.package? = some package) : isPackageName package = true := by
  obtain ⟨value, first, text⟩ := Option.bind_eq_some_iff.mp declared
  obtain ⟨package', same, valid⟩ := isPackageName_of_faultless clean first
  obtain rfl : package' = package := Option.some.inj (same.symm.trans text)
  exact valid

end PluginBuild
