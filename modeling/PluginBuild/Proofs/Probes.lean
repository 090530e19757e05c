import Mathlib.Data.String.Basic
import PluginBuild.Proofs.Files.Statuses
import PluginBuild.Symbols

/-!
Questions to the files. A question has a yes or a no, or it is refused because a name or a path is too
long. Of several questions that are put one after the other, the first without a no decides.
-/

namespace PluginBuild

open PluginBuild.Files PluginBuild.Text

/-- A question with a yes or a no, by whether something holds, or refused. -/
inductive Decides {ε : Type} : (answer : Except ε Bool) → (holds : Prop) → (refuses : ε → Prop) → Prop
  | yes {holds : Prop} {refuses : ε → Prop} (sure : holds) (allowed : ∀ e, ¬ refuses e) :
    Decides (.ok true) holds refuses
  | no {holds : Prop} {refuses : ε → Prop} (fails : ¬ holds) (allowed : ∀ e, ¬ refuses e) :
    Decides (.ok false) holds refuses
  | refused {holds : Prop} {refuses : ε → Prop} {e : ε} (why : ∀ d, refuses d ↔ d = e) :
    Decides (.error e) holds refuses

namespace Decides

variable {ε α : Type} {answer next : Except ε Bool} {p q : Prop} {r s : ε → Prop}

theorem ok_iff {b : Bool} (decides : Decides (.ok b) p r) : b = true ↔ p := by
  cases decides with
  | yes sure => simp [sure]
  | no fails => simp [fails]

theorem allowed {b : Bool} (decides : Decides (.ok b) p r) (e : ε) : ¬ r e := by
  cases decides with
  | yes _ allowed | no _ allowed => exact allowed e

theorem of_ok {b : Bool} (same : b = true ↔ p) (allowed : ∀ e, ¬ r e) : Decides (.ok b) p r := by
  cases b with
  | true => exact .yes (same.mp rfl) allowed
  | false => exact .no (fun sure => nomatch same.mpr sure) allowed

theorem eq_yes (decides : Decides answer p r) (sure : p) (allowed : ∀ e, ¬ r e) : answer = .ok true := by
  cases decides with
  | yes => rfl
  | no fails => exact absurd sure fails
  | refused why => exact absurd ((why _).mpr rfl) (allowed _)

theorem eq_no (decides : Decides answer p r) (fails : ¬ p) (allowed : ∀ e, ¬ r e) :
    answer = .ok false := by
  cases decides with
  | yes sure => exact absurd sure fails
  | no => rfl
  | refused why => exact absurd ((why _).mpr rfl) (allowed _)

theorem eq_refused {e : ε} (decides : Decides answer p r) (why : r e) : answer = .error e := by
  cases decides with
  | yes _ allowed | no _ allowed => exact absurd why (allowed e)
  | refused only => rw [(only e).mp why]

theorem orElse (first : Decides answer p r) (second : Decides next q s) :
    Decides (do if ← answer then return true else next) (p ∨ q)
      (fun e => r e ∨ (¬ p ∧ ∀ d, ¬ r d) ∧ s e) := by
  cases first with
  | refused why => exact .refused fun d => by simp [why]
  | yes sure allowed => exact .yes (.inl sure) fun e => by simp [sure, allowed e]
  | no fails allowed =>
    cases second with
    | refused why => exact .refused fun d => by simp [fails, allowed, why]
    | yes sure allowed' => exact .yes (.inr sure) fun e => by simp [allowed e, allowed' e]
    | no fails' allowed' =>
      exact .no (not_or.mpr ⟨fails, fails'⟩) fun e => by simp [allowed e, allowed' e]

theorem congr (decides : Decides answer p r) (holds : p ↔ q) (refuses : ∀ e, r e ↔ s e) :
    Decides answer q s := by
  obtain rfl : p = q := propext holds
  obtain rfl : r = s := funext fun e => propext (refuses e)
  exact decides

theorem mapError {δ : Type} (f : ε → δ) (decides : Decides answer p r) :
    Decides (answer.mapError f) p (fun d => ∃ e, r e ∧ d = f e) := by
  cases decides with
  | yes sure allowed => exact .yes sure fun d ⟨e, why, _⟩ => allowed e why
  | no fails allowed => exact .no fails fun d ⟨e, why, _⟩ => allowed e why
  | refused why => exact .refused fun d => by simp [why]

theorem anyM {question : α → Except ε Bool} {p : α → Prop} {r : α → ε → Prop} {xs : List α}
    (each : ∀ x ∈ xs, Decides (question x) (p x) (r x)) :
    Decides (xs.anyM question) (∃ x ∈ xs, p x) (fun e => ∃ before x after,
      xs = before ++ x :: after ∧ (∀ y ∈ before, ¬ p y ∧ ∀ d, ¬ r y d) ∧ r x e) := by
  induction xs with
  | nil => exact .no (by simp) (by simp)
  | cons x rest ih =>
    have later := ih fun y member => each y (List.mem_cons_of_mem x member)
    rw [List.anyM_cons]
    refine ((each x List.mem_cons_self).orElse later).congr (by simp) fun e => ?_
    constructor
    · rintro (here | ⟨passed, before, y, after, rfl, others, refused⟩)
      · exact ⟨[], x, rest, rfl, List.forall_mem_nil _, here⟩
      · exact ⟨x :: before, y, after, rfl, List.forall_mem_cons.mpr ⟨passed, others⟩, refused⟩
    · rintro ⟨before, y, after, split, passed, refused⟩
      cases before with
      | nil =>
        obtain ⟨rfl, -⟩ := List.cons.inj split
        exact .inl refused
      | cons first before =>
        obtain ⟨rfl, rfl⟩ := List.cons.inj split
        obtain ⟨here, others⟩ := List.forall_mem_cons.mp passed
        exact .inr ⟨here, before, y, after, rfl, others, refused⟩

end Decides

section
variable {t : FileTree} {path : String} {holds : Prop}

theorem isDirectory_decides
    (known : ∀ x, t.status? path = .ok x → (x = some .directory ↔ holds)) :
    Decides (t.isDirectory path) holds (fun e => t.status? path = .error e) := by
  unfold FileTree.isDirectory
  cases shown : t.status? path with
  | error e => exact .refused fun d => by simp [eq_comm]
  | ok x => exact .of_ok (beq_iff_eq.trans (known x shown)) (by simp)

theorem isFile_decides
    (known : ∀ x, t.status? path = .ok x → ((∃ content, x = some (.file content)) ↔ holds)) :
    Decides (t.isFile path) holds (fun e => t.status? path = .error e) := by
  unfold FileTree.isFile
  cases shown : t.status? path with
  | error e => exact .refused fun d => by simp [eq_comm]
  | ok x =>
    refine .of_ok (Iff.trans ?_ (known x shown)) (by simp)
    match x with
    | none | some .directory | some (.link target) => simp
    | some (.file content) => simp

end

theorem directoryProvides_decides {files : FileTree} {entry : Path} {suffixes : List String}
    {name : String} {isDirectory : Prop} {isFile : String → Prop} {refusesDirectory : FileError → Prop}
    {refusesFile : String → FileError → Prop}
    (directory : Decides (files.isDirectory (entry.child name).text) isDirectory refusesDirectory)
    (file : ∀ suffix ∈ suffixes, Decides (files.isFile (entry.child (name ++ suffix)).text)
      (isFile suffix) (refusesFile suffix)) :
    Decides (directoryProvides suffixes files entry name)
      (isDirectory ∨ ∃ suffix ∈ suffixes, isFile suffix)
      (fun e => refusesDirectory e ∨ (¬ isDirectory ∧ ∀ d, ¬ refusesDirectory d) ∧
        ∃ before suffix after, suffixes = before ++ suffix :: after ∧
          (∀ other ∈ before, ¬ isFile other ∧ ∀ d, ¬ refusesFile other d) ∧ refusesFile suffix e) :=
  directory.orElse (.anyM file)

def IsTooLong (directory : Path) (name : String) : Prop :=
  maxPathLength < (directory.child name).text.utf8ByteSize ∨ maxNameLength < name.utf8ByteSize

theorem moduleSuffixes_undivided : ∀ suffix ∈ moduleSuffixes, '/' ∉ suffix.toList := by decide

/-- A name that a module at the top of a classpath can have. -/
structure IsModuleName (name : String) : Prop where
  nonempty : name ≠ ""
  undotted : '.' ∉ name.toList
  undivided : '/' ∉ name.toList

instance (name : String) : Decidable (IsModuleName name) :=
  decidable_of_iff (name ≠ "" ∧ '.' ∉ name.toList ∧ '/' ∉ name.toList)
    ⟨fun ⟨a, b, c⟩ => ⟨a, b, c⟩, fun ⟨a, b, c⟩ => ⟨a, b, c⟩⟩

namespace IsModuleName

variable {name suffix : String}

theorem exists_cons (valid : IsModuleName name) : ∃ c rest, name.toList = c :: rest ∧ c ≠ '.' := by
  cases chars : name.toList with
  | nil => exact absurd (String.toList_eq_nil_iff.mp chars) valid.nonempty
  | cons c rest => exact ⟨c, rest, rfl, fun dot => valid.undotted (by simp [chars, dot])⟩

theorem isNormalPart_append (valid : IsModuleName name) (undivided : '/' ∉ suffix.toList) :
    Path.IsNormalPart (name ++ suffix) ∧ name ++ suffix ≠ ".." := by
  obtain ⟨c, rest, chars, undotted⟩ := valid.exists_cons
  have differ (other : String) (dots : ∀ d ∈ other.toList.head?, d = '.') : name ++ suffix ≠ other := by
    rintro rfl
    exact undotted (dots c (by simp [chars]))
  refine ⟨⟨?_, by simpa using ⟨valid.undivided, undivided⟩⟩, differ ".." (by simp)⟩
  simp only [Path.isPart, Bool.and_eq_true, bne_iff_ne, ne_eq]
  exact ⟨differ "" (by simp), differ "." (by simp)⟩

theorem isNormalPart (valid : IsModuleName name) : Path.IsNormalPart name ∧ name ≠ ".." := by
  simpa using valid.isNormalPart_append (show '/' ∉ ("" : String).toList by simp)

end IsModuleName

section
variable {t : FileTree} {entry : Path} {place : Place} {name : String}

theorem noNull_child (normal : entry.IsNormal) (usable : IsPathText entry.text)
    (part : Path.IsNormalPart name) (plain : '\x00' ∉ name.toList) :
    '\x00' ∉ (entry.child name).text.toList := by
  intro inside
  rw [Path.child_of_isNormalPart entry part] at inside
  rcases Path.mem_text inside with dot | slash | ⟨piece, listed, holds⟩
  · exact absurd dot (by decide)
  · exact absurd slash (by decide)
  · rcases List.mem_append.mp listed with above | last
    · exact usable.noNull (Path.mem_text_of_mem_parts normal above holds)
    · exact plain (List.mem_singleton.mp last ▸ holds)

theorem status?_of_isTooLong (normal : entry.IsNormal)
    (located : t.locate true entry.text = .ok (.found place .directory))
    (part : Path.IsNormalPart name ∧ name ≠ "..") (plain : '\x00' ∉ name.toList)
    (unlinked : ∀ target, t.get? (place ++ [name]) ≠ some (.link target)) (long : IsTooLong entry name) :
    t.status? (entry.child name).text = .error (.refused .nameTooLong (entry.child name).text) := by
  have noNull := noNull_child normal (FileTree.locate_eq_ok_iff.mp located).1 part.1 plain
  unfold IsTooLong at long
  rw [FileTree.status?_child_of_locate normal part.1 part.2 located unlinked, FileTree.childStatus,
    if_neg (by simpa using noNull), if_pos long]

end

def nameOfLength (n : Nat) : String := String.ofList (List.replicate n 'a')

section
variable {n : Nat}

theorem nameOfLength_toList : (nameOfLength n).toList = List.replicate n 'a' := String.toList_ofList

theorem utf8ByteSize_nameOfLength : (nameOfLength n).utf8ByteSize = n := by
  rw [nameOfLength, String.utf8ByteSize_ofList]
  induction n with
  | zero => rfl
  | succ n ih =>
    rw [List.replicate_succ, String.utf8Len_cons, ih]
    rfl

theorem nameOfLength_absent {c : Char} (differ : c ≠ 'a') : c ∉ (nameOfLength n).toList := by
  simp [nameOfLength_toList, differ]

theorem isModuleName_nameOfLength (positive : n ≠ 0) : IsModuleName (nameOfLength n) := by
  refine ⟨fun empty => positive ?_, nameOfLength_absent (by decide), nameOfLength_absent (by decide)⟩
  have bytes := utf8ByteSize_nameOfLength (n := n)
  rw [empty] at bytes
  exact bytes.symm

end

end PluginBuild
