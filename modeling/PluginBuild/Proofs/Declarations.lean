import PluginBuild.Proofs.Assembly
import PluginBuild.Proofs.Compilation
import PluginBuild.Proofs.Diagnostics
import PluginBuild.Proofs.Frame.Statements

/-!
The package of a script, as the check of its declarations, the class it becomes, and the module it is
compiled as read it. Where the check has nothing to report, there is at most one declaration; it gives
the package of the class, and it is what the module leaves out.
-/

namespace PluginBuild

open PluginBuild.Script PluginBuild.Text

namespace Script

def Stmt.assignsPackage : Stmt → Bool
  | .assign _ targets _ => targets.any (·.isPackageTarget)
  | .augAssign _ target _ _ | .annAssign _ target _ _ _ => target.isPackageTarget
  | _ => false

def Module.packageStatements (m : Module) : List Stmt := m.body.filter (·.assignsPackage)

/-- An assignment of a literal to `__package__` alone that makes a package's name of identifiers. -/
inductive Stmt.Declares (package : String) : Stmt → Prop where
  | literal {pos place : Pos} {target : Expr} {kind : Option String} (named : target.isPackageTarget = true)
      (identifiers : ∀ part ∈ split '.' package, isIdentifier part = true) :
      Declares package (.assign pos [target] (.constant place (.text package) kind))

/-- What a module declares as its package: nothing, or what its only assignment to `__package__` says. -/
inductive Module.Declares (m : Module) : Option String → Prop where
  | nothing (empty : m.packageStatements = []) : Declares m none
  | package {d : Stmt} {package : String} (only : m.packageStatements = [d]) (declares : d.Declares package) :
      Declares m (some package)

end Script

section
variable {isDeclared : Bool} {statement : Stmt} {rest body : List Stmt}

theorem declarationFaults_skip (other : statement.assignsPackage = false) :
    declarationFaults isDeclared (statement :: rest) = declarationFaults isDeclared rest := by
  cases statement with
  | assign pos targets value =>
    simp only [Stmt.assignsPackage] at other
    simp [declarationFaults, other]
  | augAssign pos target op value =>
    simp only [Stmt.assignsPackage] at other
    simp [declarationFaults, other]
  | annAssign pos target hint value simple =>
    simp only [Stmt.assignsPackage] at other
    simp [declarationFaults, other]
  | _ => rfl

theorem assignmentFault?_eq_none {targets : List Expr} {value : Expr} {pos : Pos}
    (assigns : targets.any (·.isPackageTarget) = true) :
    assignmentFault? isDeclared targets value = none ↔
      isDeclared = false ∧ ∃ package, (Stmt.assign pos targets value).Declares package := by
  constructor
  · intro clean
    unfold assignmentFault? at clean
    split at clean
    · exact nomatch clean
    · rename_i alone
      obtain ⟨target, rfl⟩ := List.length_eq_one_iff.mp (Decidable.not_not.mp alone)
      have named : target.isPackageTarget = true := by simpa using assigns
      match value, clean with
      | .constant place (.text package) kind, clean =>
        simp only [Expr.text?] at clean
        split at clean
        · exact nomatch clean
        · rename_i valid
          split at clean
          · exact nomatch clean
          · rename_i isFirst
            rw [Bool.not_eq_true', Bool.not_eq_false] at valid
            exact ⟨by simpa using isFirst, package, .literal named (List.all_eq_true.mp valid)⟩
  · rintro ⟨rfl, package, declares⟩
    cases declares with
    | literal named identifiers =>
      have valid : isPackageName package = true := List.all_eq_true.mpr identifiers
      simp [assignmentFault?, Expr.text?, valid]

theorem declarationFaults_cons (assigns : statement.assignsPackage = true) :
    declarationFaults isDeclared (statement :: rest) = [] ↔
      isDeclared = false ∧ (∃ package, statement.Declares package) ∧ declarationFaults true rest = [] := by
  cases statement with
  | assign pos targets value =>
    simp only [Stmt.assignsPackage] at assigns
    rw [declarationFaults, if_pos assigns, List.append_eq_nil_iff, Option.toList_eq_nil_iff,
      Option.map_eq_none_iff, assignmentFault?_eq_none assigns, and_assoc]
  | augAssign pos target op value =>
    simp only [Stmt.assignsPackage] at assigns
    simp only [declarationFaults, if_pos assigns, reduceCtorEq, false_iff]
    rintro ⟨-, ⟨package, declares⟩, -⟩
    cases declares
  | annAssign pos target hint value simple =>
    simp only [Stmt.assignsPackage] at assigns
    simp only [declarationFaults, if_pos assigns, reduceCtorEq, false_iff]
    rintro ⟨-, ⟨package, declares⟩, -⟩
    cases declares
  | _ => exact nomatch assigns

theorem declarationFaults_eq_nil :
    declarationFaults isDeclared body = [] ↔
      body.filter (·.assignsPackage) = [] ∨
        isDeclared = false ∧ ∃ d package, body.filter (·.assignsPackage) = [d] ∧ d.Declares package := by
  induction body generalizing isDeclared with
  | nil => simp [declarationFaults]
  | cons statement rest ih =>
    cases assigns : statement.assignsPackage with
    | false =>
      rw [declarationFaults_skip assigns, List.filter_cons_of_neg (by simp [assigns]), ih]
    | true =>
      -- Behind a declaration the check is passed only where nothing else assigns to the package.
      rw [declarationFaults_cons assigns, List.filter_cons_of_pos assigns, ih]
      constructor
      · rintro ⟨isFirst, ⟨package, declares⟩, none | ⟨never, -⟩⟩
        · exact .inr ⟨isFirst, statement, package, by rw [none], declares⟩
        · exact nomatch never
      · rintro (none | ⟨isFirst, d, package, only, declares⟩)
        · exact nomatch none
        · obtain ⟨rfl, none⟩ := List.cons.inj only
          exact ⟨isFirst, ⟨package, declares⟩, .inl none⟩

end

theorem checkDeclarations_reportsNoError (s : Subject) (f : Findings) (w : Workspace) :
    ReportsNoError checkDeclarations s f w ↔ ∃ package, s.tree.Declares package := by
  refine (reportsNoError_iff (fun s => declarationFaults false s.tree.body) DeclarationFault.message s f
    w).trans (declarationFaults_eq_nil.trans ⟨?_, ?_⟩)
  · rintro (empty | ⟨-, d, package, only, declares⟩)
    · exact ⟨none, .nothing empty⟩
    · exact ⟨some package, .package only declares⟩
  · rintro ⟨package, empty | ⟨only, declares⟩⟩
    · exact .inl empty
    · exact .inr ⟨rfl, _, _, only, declares⟩

namespace Script

theorem Stmt.packageValue?_eq_none {s : Stmt} (other : s.assignsPackage = false) :
    s.packageValue? = none := by
  unfold Stmt.packageValue?
  split
  · simp only [Stmt.assignsPackage, List.any_cons, List.any_nil, Bool.or_false] at other
    rw [if_neg (by simp [other])]
  · rfl

theorem Module.findSome?_packageValue? (m : Module) :
    m.body.findSome? Stmt.packageValue? = m.packageStatements.findSome? Stmt.packageValue? := by
  rw [Module.packageStatements]
  induction m.body with
  | nil => rfl
  | cons s rest ih =>
    cases assigns : s.assignsPackage with
    | false =>
      rw [List.findSome?_cons, Stmt.packageValue?_eq_none assigns, ih,
        List.filter_cons_of_neg (by simp [assigns])]
    | true => rw [List.filter_cons_of_pos assigns, List.findSome?_cons, List.findSome?_cons, ih]

theorem Stmt.isPackageDeclaration_eq {s : Stmt}
    (declares : s.assignsPackage = true → ∃ package, s.Declares package) :
    s.isPackageDeclaration = s.assignsPackage := by
  cases assigns : s.assignsPackage with
  | false => rw [Stmt.isPackageDeclaration, Stmt.packageValue?_eq_none assigns, Option.isSome_none]
  | true =>
    obtain ⟨package, named, -⟩ := declares assigns
    simp [Stmt.isPackageDeclaration, Stmt.packageValue?, named]

theorem Stmt.isFutureImport_of_assignsPackage {s : Stmt} (assigns : s.assignsPackage = true) :
    s.isFutureImport = false := by
  cases s <;> first | rfl | exact nomatch assigns

namespace Module.Declares

variable {m : Module} {package : Option String}

theorem package?_eq (declares : m.Declares package) : m.package? = package := by
  rw [Module.package?, Module.findSome?_packageValue?]
  cases declares with
  | nothing empty =>
    rw [empty]
    rfl
  | package only declares =>
    obtain ⟨named, -⟩ := declares
    rw [only, List.findSome?_cons, Stmt.packageValue?, if_pos named]
    rfl

theorem isPackageDeclaration_eq (declares : m.Declares package) {s : Stmt} (member : s ∈ m.body) :
    s.isPackageDeclaration = s.assignsPackage := by
  refine Stmt.isPackageDeclaration_eq fun assigns => ?_
  have among : s ∈ m.packageStatements := List.mem_filter.mpr ⟨member, assigns⟩
  cases declares with
  | nothing empty =>
    rw [empty] at among
    exact nomatch among
  | @package d package only declares =>
    rw [only, List.mem_singleton] at among
    exact ⟨package, among ▸ declares⟩

theorem perm_body (declares : m.Declares package) :
    (futureImports m ++ methodStatements m ++ m.packageStatements).Perm m.body := by
  -- An assignment is no import, so the declaration is among what the imports leave over.
  let behind := m.body.filter fun s => !s.isFutureImport
  have method : methodStatements m = behind.filter fun s => !s.assignsPackage := by
    rw [List.filter_filter]
    refine List.filter_congr fun s member => ?_
    rw [declares.isPackageDeclaration_eq member, Bool.and_comm]
  have declaration : m.packageStatements = behind.filter (·.assignsPackage) := by
    rw [List.filter_filter]
    refine List.filter_congr fun s _ => ?_
    cases assigns : s.assignsPackage with
    | false => rfl
    | true => rw [Stmt.isFutureImport_of_assignsPackage assigns]; rfl
  have parted : (methodStatements m ++ m.packageStatements).Perm behind := by
    rw [method, declaration]
    exact List.perm_append_comm.trans (List.filter_append_perm _ behind)
  rw [List.append_assoc]
  exact (parted.append_left (futureImports m)).trans (List.filter_append_perm _ m.body)

end Module.Declares

end Script

namespace Script

/-- The statements that a compound statement runs first. -/
def Stmt.block? : Stmt → Option (List Stmt)
  | .function _ _ _ _ body _ _ | .class _ _ _ _ body _ | .for _ _ _ _ body _ | .while _ _ body _
  | .if _ _ body _ | .with _ _ _ body | .try _ _ body _ _ _ => some body
  | _ => none

/-- The first statement in the block of a statement has statements at the end of its own block. -/
def Stmt.HoldsInside (s : Stmt) (script : List Stmt) : Prop :=
  ∃ first others front, s.block? = some (first :: others) ∧ first.block? = some (front ++ script)

theorem Stmt.block?_extendBlock {s s' : Stmt} {more : List Stmt} (extended : s.extendBlock more = .ok s') :
    ∃ front, s'.block? = some (front ++ more) := by
  cases s <;> first
    | cases extended
      exact ⟨_, rfl⟩
    | exact nomatch extended

theorem Stmt.holdsInside_of_map {s' : Stmt} {block more : List Stmt} {rebuilt : List Stmt → Stmt}
    (same : ∀ body, (rebuilt body).block? = some body)
    (extended : Except.map rebuilt (match block with
      | [] => .error .missingClass
      | first :: rest => (first.extendBlock more).map (· :: rest)) = .ok s') : s'.HoldsInside more := by
  cases block with
  | nil => cases extended
  | cons first rest =>
    cases inner : first.extendBlock more with
    | error e =>
      simp only [inner] at extended
      cases extended
    | ok first' =>
      simp only [inner] at extended
      cases extended
      obtain ⟨front, stands⟩ := block?_extendBlock inner
      exact ⟨first', rest, front, same _, stands⟩

theorem Stmt.holdsInside_extendFirst {s s' : Stmt} {more : List Stmt}
    (extended : s.extendFirst more = .ok s') : s'.HoldsInside more := by
  cases s <;> first
    | exact holdsInside_of_map (fun body => rfl) extended
    | cases extended

end Script

theorem frameStatements_holds {c : PluginClass} {t : Template} {script frame : List Stmt}
    (read : frameStatements c t script = .ok frame) :
    ∃ first second rest, frame = first :: second :: rest ∧ second.HoldsInside script := by
  unfold frameStatements at read
  split at read
  · exact nomatch read
  · exact nomatch read
  · split at read
    · rename_i first second rest body
      cases extended : second.extendFirst script with
      | error e =>
        rw [extended] at read
        exact nomatch read
      | ok second' =>
        rw [extended] at read
        cases read
        exact ⟨first, second', rest, rfl, Stmt.holdsInside_extendFirst extended⟩
    · exact nomatch read

/-- The readings of a package agree. The check of the declarations reports no error exactly if nothing at
the top of the script assigns to `__package__`, or one declaration does. In this case the declaration is
what is looked up in the script, its text is the package of the class that the script becomes, and of the
script's statements the module that is compiled leaves out this declaration and nothing else: the future
imports stand in front, and the others in the block of the frame. -/
theorem package_readings_agree (s : Subject) (f : Findings) (w : Workspace) :
    (ReportsNoError checkDeclarations s f w ↔ ∃ package, s.tree.Declares package) ∧
    (ReportsNoError checkDeclarations s f w → ∃ package, s.tree.Declares package ∧
      s.tree.package? = package ∧
      (∀ codec? path isScript bytes plugin, SourceUnit.ofBytes codec? path isScript bytes = .ok s.unit →
        s.unit.tree = .ok s.tree → s.unit.plugin = some plugin → plugin.package = package.getD "") ∧
      ∀ c t result, assemble s.tree c t = .ok result → ∃ frame,
        frameStatements c t (methodStatements s.tree) = .ok frame ∧
        result.body = futureImports s.tree ++ frame ∧
        (∃ first second rest, frame = first :: second :: rest ∧
          second.HoldsInside (methodStatements s.tree)) ∧
        (futureImports s.tree ++ methodStatements s.tree ++ s.tree.packageStatements).Perm
          s.tree.body) := by
  refine ⟨checkDeclarations_reportsNoError s f w, fun clean => ?_⟩
  obtain ⟨package, declares⟩ := (checkDeclarations_reportsNoError s f w).mp clean
  refine ⟨package, declares, declares.package?_eq, ?_, fun c t result assembled => ?_⟩
  · intro codec? path isScript bytes plugin made parsed script
    rw [plugin_of_ofBytes made script, parsed]
    exact congrArg (·.getD "") declares.package?_eq
  · obtain ⟨frame, read, body⟩ := assemble_ok assembled
    exact ⟨frame, read, body, frameStatements_holds read, declares.perm_body⟩

/-- A script with a declaration and a future import: the one is read as its package and left out of the
module that is compiled, which holds the other and the rest. -/
theorem package_of_sample : ∃ m result, Module.parse
      "from __future__ import annotations\n__package__ = 'a.b'\nx = 1\n".toList false = .ok m ∧
    assemble m sampleClass .plugin = .ok result ∧ m.Declares (some "a.b") ∧ m.package? = some "a.b" ∧
    m.packageStatements.length = 1 ∧ m.body.length = 3 ∧
    ∃ first second rest, result.body = futureImports m ++ first :: second :: rest ∧
      second.HoldsInside (methodStatements m) ∧
      (futureImports m ++ methodStatements m ++ m.packageStatements).Perm m.body := by
  obtain ⟨m, result, parsed, assembled, -, also⟩ := exists_of_isAssembled
    "from __future__ import annotations\n__package__ = 'a.b'\nx = 1\n"
    (fun m => (declarationFaults false m.body).isEmpty && m.package? == some "a.b" &&
      m.packageStatements.length == 1 && m.body.length == 3) (by decide +kernel)
  simp only [Bool.and_eq_true, List.isEmpty_iff, beq_iff_eq] at also
  obtain ⟨⟨⟨faultless, named⟩, one⟩, three⟩ := also
  let start : Workspace := ⟨⟨[], [], .plain⟩, [], [], [], []⟩
  have clean : ReportsNoError checkDeclarations (sampleSubject m) ⟨SymbolIndex.ofEntries [], 0⟩ start :=
    (reportsNoError_iff (fun s => declarationFaults false s.tree.body) DeclarationFault.message _ _
      _).mpr faultless
  obtain ⟨package, declares, read, -, keeps⟩ := (package_readings_agree (sampleSubject m) _ _).2 clean
  obtain rfl : package = some "a.b" := read.symm.trans named
  obtain ⟨frame, -, body, ⟨first, second, rest, rfl, holds⟩, whole⟩ := keeps _ _ _ assembled
  exact ⟨m, result, parsed, assembled, declares, named, one, three, first, second, rest, body, holds, whole⟩

end PluginBuild
