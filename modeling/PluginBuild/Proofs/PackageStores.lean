import PluginBuild.Proofs.Assembly
import PluginBuild.Proofs.Breadth
import PluginBuild.Proofs.Declarations
import PluginBuild.Script.Codecs

/-!
Where a script stores to `__package__`. The check of declarations looks at the targets of the assignments
at the top of a script, and lets one of them pass, that of the declaration. A store anywhere else in the
scope of the script goes unseen and stays in the method, though it is not what the package is read from.
-/

namespace PluginBuild

open PluginBuild.Script PluginBuild.Text

namespace Script

/-- The name that an import binds: the part in front of the first dot. -/
def Alias.boundName (a : Alias) : String :=
  String.ofList ((a.asName.getD a.name).toList.takeWhile (· != '.'))

/-- Whether a node stores to `__package__`: a name as a target, a definition, an import, a handler or a
pattern. -/
def Node.storesPackage : Node → Bool
  | .expr (.name _ id .store) => id == packageName
  | .stmt (.function _ _ name _ _ _ _) | .stmt (.class _ name _ _ _ _) => name == packageName
  | .imported a => a.boundName == packageName
  | .handler (.mk _ _ name _) => name == some packageName
  | .pattern (.star _ name) | .pattern (.capture _ _ name) | .pattern (.mapping _ _ _ name) =>
    name == some packageName
  | _ => false

/-- The node at an address within a statement. The statement itself is at the empty one. -/
def Stmt.nodeAt? (s : Stmt) (path : List Nat) : Option Node :=
  Script.nodeAt? Node.scopeParts [.stmt s] (0 :: path)

/-- The targets of an assignment, which the check of declarations looks at. -/
def Stmt.targets : Stmt → List Expr
  | .assign _ targets _ => targets
  | .augAssign _ target _ _ | .annAssign _ target _ _ _ => [target]
  | _ => []

def Stmt.StoresAt (s : Stmt) (path : List Nat) : Prop :=
  ∃ n, s.nodeAt? path = some n ∧ n.storesPackage = true

/-- A store that is not one of the targets of the statement. -/
def Stmt.HidesStore (s : Stmt) (path : List Nat) : Prop :=
  s.StoresAt path ∧ ∀ j, path = [j] → s.targets.length ≤ j

/-- Whether nothing in the scope of a script stores to `__package__` but the target of the only statement
that assigns to it. -/
def Module.StoresOnlyByDeclaration (m : Module) : Prop :=
  ∀ i path n, nodeAt? Node.scopeParts m.nodes (i :: path) = some n → n.storesPackage = true →
    ∃ d, m.body[i]? = some d ∧ m.packageStatements = [d] ∧ path = [0]

/-- Whether nothing in the scope of some nodes stores to `__package__`. -/
def AreStoreless (nodes : List Node) : Prop :=
  ∀ a n, nodeAt? Node.scopeParts nodes a = some n → n.storesPackage = false

variable {m : Module} {s d : Stmt} {n : Node} {path : List Nat} {package : String}

theorem nodeAt?_cons (roots : List Node) (i : Nat) (path : List Nat) :
    nodeAt? Node.scopeParts roots (i :: path) =
      roots[i]?.bind fun n => nodeAt? Node.scopeParts [n] (0 :: path) := by
  cases path <;> simp [nodeAt?]

theorem nodeAt?_below (n : Node) (i : Nat) (path : List Nat) :
    nodeAt? Node.scopeParts [n] (0 :: i :: path) = nodeAt? Node.scopeParts n.scopeParts (i :: path) := by
  simp [nodeAt?]

theorem Module.nodeAt?_nodes (m : Module) (i : Nat) (path : List Nat) :
    nodeAt? Node.scopeParts m.nodes (i :: path) = m.body[i]?.bind fun s => s.nodeAt? path := by
  rw [nodeAt?_cons, Module.nodes, List.getElem?_map, Option.bind_map]
  rfl

theorem areStoreless_iff {nodes : List Node} :
    AreStoreless nodes ↔ ∀ n ∈ nodes, n.storesPackage = false ∧ AreStoreless n.scopeParts := by
  constructor
  · intro storeless n member
    obtain ⟨i, found⟩ := List.mem_iff_getElem?.mp member
    refine ⟨storeless [i] n (by simp [nodeAt?, found]), fun a m at_ => ?_⟩
    cases a with
    | nil => cases at_
    | cons j path =>
      refine storeless (i :: j :: path) m ?_
      rw [nodeAt?_cons, found, Option.bind_some, nodeAt?_below, at_]
  · intro each a n at_
    cases a with
    | nil => cases at_
    | cons i path =>
      rw [nodeAt?_cons, Option.bind_eq_some_iff] at at_
      obtain ⟨root, found, at_⟩ := at_
      obtain ⟨plain, below⟩ := each root (List.mem_of_getElem? found)
      cases path with
      | nil =>
        obtain rfl : root = n := by simpa [nodeAt?] using at_
        exact plain
      | cons j path => exact below _ n (by rwa [nodeAt?_below] at at_)

theorem areStoreless_stmts {body : List Stmt} :
    AreStoreless (body.map .stmt) ↔ ∀ s ∈ body, ∀ path, ¬ s.StoresAt path := by
  constructor
  · rintro storeless s member path ⟨n, at_, stores⟩
    obtain ⟨i, found⟩ := List.mem_iff_getElem?.mp member
    have plain := storeless (i :: path) n (by
      rw [nodeAt?_cons, List.getElem?_map, found]
      exact at_)
    exact Bool.false_ne_true (plain.symm.trans stores)
  · intro each a n at_
    cases a with
    | nil => exact nomatch at_
    | cons i path =>
      rw [nodeAt?_cons, List.getElem?_map, Option.bind_eq_some_iff] at at_
      obtain ⟨root, found, at_⟩ := at_
      obtain ⟨s, member, rfl⟩ := Option.map_eq_some_iff.mp found
      have none := each s (List.mem_of_getElem? member) path
      exact Bool.eq_false_iff.mpr fun stores => none ⟨n, at_, stores⟩

theorem Stmt.assignsPackage_eq (s : Stmt) : s.assignsPackage = s.targets.any (·.isPackageTarget) := by
  cases s <;> simp [Stmt.assignsPackage, Stmt.targets]

theorem Stmt.scopeParts_targets (s : Stmt) :
    ∃ rest, (Node.stmt s).scopeParts = s.targets.map .expr ++ rest := by
  cases s with
  | assign pos targets value =>
    exact ⟨[.expr value], by simp [Node.scopeParts, Node.children, Node.fields, Stmt.fields, Stmt.targets,
      exprField, exprsField, Field.children]⟩
  | augAssign pos target op value => exact ⟨[.binaryOp op, .expr value], rfl⟩
  | annAssign pos target hint value simple =>
    exact ⟨.expr hint :: (exprField? value).children, by simp [Node.scopeParts, Node.children, Node.fields,
      Stmt.fields, Stmt.targets, exprField, Field.children]⟩
  | _ => exact ⟨_, rfl⟩

theorem Stmt.nodeAt?_target {j : Nat} (inside : j < s.targets.length) :
    s.nodeAt? [j] = some (.expr s.targets[j]) := by
  obtain ⟨rest, parts⟩ := s.scopeParts_targets
  rw [Stmt.nodeAt?, nodeAt?_below, parts, Script.nodeAt?,
    List.getElem?_append_left (by rwa [List.length_map])]
  simp [inside]

theorem Expr.isPackageTarget_of_stores {e : Expr} (stores : (Node.expr e).storesPackage = true) :
    e.isPackageTarget = true := by
  cases e with
  | name pos id use => cases use <;> first | exact stores | exact nomatch stores
  | _ => exact nomatch stores

theorem Stmt.hidesStore_iff (other : s.assignsPackage = false) : s.HidesStore path ↔ s.StoresAt path := by
  refine ⟨And.left, fun stores => ⟨stores, ?_⟩⟩
  rintro j rfl
  -- A target that stores to the package would make the statement one that assigns to it.
  by_contra inside
  obtain ⟨n, at_, stores⟩ := stores
  rw [Stmt.nodeAt?_target (Nat.lt_of_not_le inside), Option.some.injEq] at at_
  subst at_
  have assigns : s.assignsPackage = true := by
    rw [Stmt.assignsPackage_eq, List.any_eq_true]
    exact ⟨_, List.getElem_mem _, Expr.isPackageTarget_of_stores stores⟩
  exact Bool.false_ne_true (other.symm.trans assigns)

/-- Whether a node and the parts of it, down to some level where there are no more, store nothing. -/
def Node.isStoreless : Nat → Node → Bool
  | 0, _ => false
  | depth + 1, n => !n.storesPackage && n.scopeParts.all (isStoreless depth)

theorem areStoreless_of_all (depth : Nat) {nodes : List Node}
    (storeless : nodes.all (·.isStoreless depth) = true) : AreStoreless nodes := by
  induction depth generalizing nodes with
  | zero =>
    have empty : nodes = [] := List.eq_nil_iff_forall_not_mem.mpr fun n member =>
      Bool.false_ne_true (List.all_eq_true.mp storeless n member)
    exact areStoreless_iff.mpr (empty ▸ List.forall_mem_nil _)
  | succ depth ih =>
    refine areStoreless_iff.mpr fun n member => ?_
    have here := List.all_eq_true.mp storeless n member
    rw [Node.isStoreless, Bool.and_eq_true, Bool.not_eq_true'] at here
    exact ⟨here.1, ih here.2⟩

theorem Stmt.Declares.stores_only (declares : d.Declares package) (stores : d.StoresAt path) :
    path = [0] := by
  obtain ⟨n, at_, stores⟩ := stores
  cases declares with
  | @literal pos place target kind named identifiers =>
    match target, named with
    | .name pos' id use, named =>
      let value : Expr := .constant place (.text package) kind
      have parts : (Node.stmt (.assign pos [.name pos' id use] value)).scopeParts =
          [.expr (.name pos' id use), .expr value] := rfl
      have belowName : AreStoreless (Node.expr (.name pos' id use)).scopeParts := areStoreless_of_all 2 rfl
      have belowValue : AreStoreless (Node.expr value).scopeParts := areStoreless_of_all 1 rfl
      cases path with
      | nil =>
        obtain rfl := Option.some.inj at_
        exact nomatch stores
      | cons i rest =>
        rw [Stmt.nodeAt?, nodeAt?_below, parts, nodeAt?_cons] at at_
        match i, rest with
        | 0, [] => rfl
        | 0, j :: rest =>
          have plain := belowName (j :: rest) n ((nodeAt?_below _ j rest).symm.trans at_)
          exact nomatch stores.symm.trans plain
        | 1, [] =>
          obtain rfl := Option.some.inj at_
          exact nomatch stores
        | 1, j :: rest =>
          have plain := belowValue (j :: rest) n ((nodeAt?_below _ j rest).symm.trans at_)
          exact nomatch stores.symm.trans plain
        | i + 2, rest => exact nomatch at_

theorem Stmt.Declares.hides_nothing (declares : d.Declares package) : ¬ d.HidesStore path := by
  rintro ⟨stores, hidden⟩
  obtain rfl := declares.stores_only stores
  cases declares
  exact Nat.not_succ_le_zero 0 (hidden 0 rfl)

section
variable {declared : Option String}

theorem Module.Declares.declares_of_assigns (declares : m.Declares declared) (member : s ∈ m.body)
    (assigns : s.assignsPackage = true) : m.packageStatements = [s] ∧ ∃ package, s.Declares package := by
  have among : s ∈ m.packageStatements := List.mem_filter.mpr ⟨member, assigns⟩
  cases declares with
  | nothing empty => exact nomatch empty ▸ among
  | @package d package only declares =>
    rw [only, List.mem_singleton] at among
    exact ⟨among ▸ only, package, among ▸ declares⟩

/-- Where a package is declared well, the declaration is all that stores to `__package__` exactly if no
statement has a store that is hidden. -/
theorem Module.Declares.storesOnly_iff (declares : m.Declares declared) :
    m.StoresOnlyByDeclaration ↔ ∀ s ∈ m.body, ∀ path, ¬ s.HidesStore path := by
  constructor
  · intro only s member path hides
    have ⟨⟨n, at_, stores⟩, _⟩ := hides
    obtain ⟨i, found⟩ := List.mem_iff_getElem?.mp member
    have whole : nodeAt? Node.scopeParts m.nodes (i :: path) = some n := by
      rw [m.nodeAt?_nodes, found]
      exact at_
    obtain ⟨d, found', only, -⟩ := only i path n whole stores
    obtain rfl := Option.some.inj (found.symm.trans found')
    have assigns : s.assignsPackage = true := by
      have among : s ∈ m.packageStatements := only ▸ List.mem_singleton_self s
      exact (List.mem_filter.mp among).2
    obtain ⟨-, package, isDeclaration⟩ := declares.declares_of_assigns member assigns
    exact isDeclaration.hides_nothing hides
  · intro none i path n at_ stores
    rw [m.nodeAt?_nodes, Option.bind_eq_some_iff] at at_
    obtain ⟨s, found, at_⟩ := at_
    have member := List.mem_of_getElem? found
    have assigns : s.assignsPackage = true := by
      rw [← Bool.not_eq_false]
      exact fun other => none s member path ((Stmt.hidesStore_iff other).mpr ⟨n, at_, stores⟩)
    obtain ⟨only, package, isDeclaration⟩ := declares.declares_of_assigns member assigns
    exact ⟨s, found, only, isDeclaration.stores_only ⟨n, at_, stores⟩⟩

theorem Module.Declares.hidesStore_iff (declares : m.Declares declared) (inMethod : s ∈ methodStatements m) :
    s.HidesStore path ↔ s.StoresAt path := by
  obtain ⟨member, kept⟩ := List.mem_filter.mp inMethod
  rw [declares.isPackageDeclaration_eq member, Bool.and_eq_true, Bool.not_eq_true', Bool.not_eq_true'] at kept
  exact Stmt.hidesStore_iff kept.2

/-- The method as a whole stores to `__package__` by the receiver of the template, or where a statement
hides a store. -/
theorem Module.Declares.method_storeless_iff (declares : m.Declares declared) (receiver : String) :
    AreStoreless ((initCall :: receiverAssignment receiver :: methodStatements m).map .stmt) ↔
      identifierOf receiver ≠ packageName ∧ ∀ s ∈ methodStatements m, ∀ path, ¬ s.HidesStore path := by
  have call : (Node.stmt initCall).storesPackage = false ∧ AreStoreless (Node.stmt initCall).scopeParts :=
    ⟨rfl, areStoreless_of_all 5 (by decide)⟩
  have assignment : ((Node.stmt (receiverAssignment receiver)).storesPackage = false ∧
      AreStoreless (Node.stmt (receiverAssignment receiver)).scopeParts) ↔
        identifierOf receiver ≠ packageName := by
    have parts : (Node.stmt (receiverAssignment receiver)).scopeParts =
        [.expr (.name ⟨7, 8⟩ (identifierOf receiver) .store),
          .expr (.name ⟨7, 11 + receiver.utf8ByteSize⟩ "self" .load)] := rfl
    have plain : (Node.stmt (receiverAssignment receiver)).storesPackage = false := rfl
    rw [and_iff_right plain, parts, areStoreless_iff, List.forall_mem_cons, List.forall_mem_singleton]
    have below : AreStoreless (Node.expr (.name ⟨7, 8⟩ (identifierOf receiver) .store)).scopeParts :=
      areStoreless_of_all 2 rfl
    have value : (Node.expr (.name ⟨7, 11 + receiver.utf8ByteSize⟩ "self" .load)).storesPackage = false ∧
        AreStoreless (Node.expr (.name ⟨7, 11 + receiver.utf8ByteSize⟩ "self" .load)).scopeParts :=
      ⟨rfl, areStoreless_of_all 2 rfl⟩
    simp [below, value, Node.storesPackage]
  rw [areStoreless_iff, List.map_cons, List.map_cons, List.forall_mem_cons, List.forall_mem_cons,
    ← areStoreless_iff, areStoreless_stmts, assignment, and_iff_right call]
  refine and_congr_right fun _ => forall₂_congr fun s inMethod => forall_congr' fun path => ?_
  rw [declares.hidesStore_iff inMethod]

theorem Module.Declares.assembled_storeless (declares : m.Declares declared) {c : PluginClass} {t : Template}
    {result : Module} (names : HasIdentifiers c t) (assembled : assemble m c t = .ok result) :
    ∃ base method, result.body = futureImports m ++ [importOfTemplate t.module,
        .class ⟨4, 0⟩ (identifierOf c.name) [base] []
          [.function ⟨5, 4⟩ false "__init__" initParams method [] none] []] ∧
      (AreStoreless (method.map .stmt) ↔ identifierOf t.receiver ≠ packageName ∧
        ∀ s ∈ methodStatements m, ∀ path, ¬ s.HidesStore path) := by
  obtain ⟨frame, read, body⟩ := assemble_ok assembled
  rw [Frame.frameStatements_of_ok names read] at body
  exact ⟨_, _, body, declares.method_storeless_iff t.receiver⟩

end

end Script

/-- If the check of the declarations reports no error, the package that is read from the script is the one
that is declared. The declaration is all that stores to `__package__` in the script's scope exactly if no
statement stores to it otherwise than by a target of its own, and the method of the module that is compiled
is free of such stores exactly if none of its statements has one. -/
theorem package_stores (s : Subject) (f : Findings) (w : Workspace)
    (clean : ReportsNoError checkDeclarations s f w) :
    ∃ package, s.tree.Declares package ∧ s.tree.package? = package ∧
      (s.tree.StoresOnlyByDeclaration ↔ ∀ statement ∈ s.tree.body, ∀ path, ¬ statement.HidesStore path) ∧
      ∀ c t result, HasIdentifiers c t → assemble s.tree c t = .ok result → ∃ base method,
        result.body = futureImports s.tree ++ [importOfTemplate t.module,
          .class ⟨4, 0⟩ (identifierOf c.name) [base] []
            [.function ⟨5, 4⟩ false "__init__" initParams method [] none] []] ∧
        (AreStoreless (method.map .stmt) ↔ identifierOf t.receiver ≠ packageName ∧
          ∀ statement ∈ methodStatements s.tree, ∀ path, ¬ statement.HidesStore path) := by
  obtain ⟨package, declares⟩ := (checkDeclarations_reportsNoError s f w).mp clean
  exact ⟨package, declares, declares.package?_eq, declares.storesOnly_iff,
    fun c t result names assembled => declares.assembled_storeless names assembled⟩

/-- A script with a declaration: nothing else in its scope stores to `__package__`, and nothing in its
method. -/
theorem package_stores_of_sample : ∃ m result,
    Module.parse "__package__ = 'a.b'\nx = 1\n".toList false = .ok m ∧
    assemble m sampleClass .plugin = .ok result ∧ HasIdentifiers sampleClass .plugin ∧
    (∀ f w, ReportsNoError checkDeclarations (sampleSubject m) f w) ∧
    m.package? = some "a.b" ∧ m.StoresOnlyByDeclaration ∧
    ∃ base method, result.body = futureImports m ++ [importOfTemplate "toolchain.template",
      .class ⟨4, 0⟩ (identifierOf "A_plugin") [base] []
        [.function ⟨5, 4⟩ false "__init__" initParams method [] none] []] ∧
      AreStoreless (method.map .stmt) := by
  obtain ⟨m, result, parsed, assembled, -, also⟩ := exists_of_isAssembled "__package__ = 'a.b'\nx = 1\n"
    (fun m => (declarationFaults false m.body).isEmpty && m.package? == some "a.b" &&
      m.body.all fun s => s.assignsPackage || (Node.stmt s).isStoreless 3) (by decide +kernel)
  simp only [Bool.and_eq_true, List.isEmpty_iff, beq_iff_eq, List.all_eq_true, Bool.or_eq_true] at also
  obtain ⟨⟨faultless, package⟩, each⟩ := also
  have clean (f : Findings) (w : Workspace) : ReportsNoError checkDeclarations (sampleSubject m) f w :=
    (reportsNoError_iff (fun s => declarationFaults false s.tree.body) DeclarationFault.message _ f
      w).mpr faultless
  obtain ⟨declared, declares, -, only, method⟩ := package_stores (sampleSubject m)
    ⟨SymbolIndex.ofEntries [], 0⟩ ⟨⟨[], [], .plain⟩, [], [], [], []⟩ (clean _ _)
  have none : ∀ s ∈ m.body, ∀ path, ¬ s.HidesStore path := by
    intro s member path hides
    rcases each s member with assigns | storeless
    · obtain ⟨-, package, isDeclaration⟩ := declares.declares_of_assigns member assigns
      exact isDeclaration.hides_nothing hides
    · have plain : AreStoreless ([s].map .stmt) := areStoreless_of_all 3 (by simpa using storeless)
      exact areStoreless_stmts.mp plain s (List.mem_singleton_self s) path hides.1
  obtain ⟨base, body, made, storeless⟩ := method sampleClass .plugin result hasIdentifiers_sample assembled
  have inMethod : ∀ s ∈ methodStatements m, ∀ path, ¬ s.HidesStore path := fun s member =>
    none s (List.mem_of_mem_filter member)
  exact ⟨m, result, parsed, assembled, hasIdentifiers_sample, clean, package, only.mpr none, base, body, made,
    storeless.mpr ⟨by decide +kernel, inMethod⟩⟩

/-- A script that assigns to `__package__` and another name at once: no error is reported, no package is
read, and the store is in the method. -/
theorem unpacked_package_unseen : ∃ m result,
    Module.parse "__package__, x = \"a.b\", 1\n".toList false = .ok m ∧
    assemble m sampleClass .plugin = .ok result ∧ HasIdentifiers sampleClass .plugin ∧
    (∀ s f w, s.tree = m → ReportsNoError checkDeclarations s f w ∧ ReportsNoError checkBody s f w) ∧
    m.package? = none ∧ ¬ m.StoresOnlyByDeclaration ∧
    ∃ base method, result.body = futureImports m ++ [importOfTemplate "toolchain.template",
      .class ⟨4, 0⟩ (identifierOf "A_plugin") [base] []
        [.function ⟨5, 4⟩ false "__init__" initParams method [] none] []] ∧
      ¬ AreStoreless (method.map .stmt) := by
  obtain ⟨m, result, parsed, assembled, reports, also⟩ := exists_of_isAssembled
    "__package__, x = \"a.b\", 1\n"
    (fun m => (declarationFaults false m.body).isEmpty && m.package? == none &&
      (methodStatements m).any fun s => (s.nodeAt? [0, 0]).any Node.storesPackage) (by decide +kernel)
  simp only [Bool.and_eq_true, List.isEmpty_iff, beq_iff_eq, List.any_eq_true, Option.any_eq_true] at also
  obtain ⟨⟨faultless, none⟩, statement, inMethod, n, at_, stores⟩ := also
  have clean (s : Subject) (f : Findings) (w : Workspace) (isTree : s.tree = m) :
      ReportsNoError checkDeclarations s f w :=
    (reportsNoError_iff (fun s => declarationFaults false s.tree.body) DeclarationFault.message s f
      w).mpr (isTree ▸ faultless)
  obtain ⟨declared, declares⟩ := (checkDeclarations_reportsNoError (sampleSubject m)
    ⟨SymbolIndex.ofEntries [], 0⟩ ⟨⟨[], [], .plain⟩, [], [], [], []⟩).mp (clean _ _ _ rfl)
  have hides : statement.HidesStore [0, 0] := (declares.hidesStore_iff inMethod).mpr ⟨n, at_, stores⟩
  obtain ⟨base, method, made, storeless⟩ := declares.assembled_storeless hasIdentifiers_sample assembled
  refine ⟨m, result, parsed, assembled, hasIdentifiers_sample, fun s f w isTree =>
    ⟨clean s f w isTree, reports s f w isTree⟩, none, fun only => ?_, base, method, made, fun free => ?_⟩
  · exact declares.storesOnly_iff.mp only statement (List.mem_of_mem_filter inMethod) _ hides
  · exact (storeless.mp free).2 statement inMethod _ hides

end PluginBuild
