import PluginBuild.Proofs.Files.Statuses
import PluginBuild.Proofs.Outcomes
import PluginBuild.Proofs.Script.NameTokens

/-!
What stays provided while files change. A module that a classpath provides is provided in other files as
well, where the entries show the same and what directories among them hold is still there. The names of
modules must not lead out of an entry: they have no separators.
-/

namespace PluginBuild

open PluginBuild.Files PluginBuild.Script PluginBuild.Text

/-- Where a question has an answer, so has the other one, and yes stays yes. -/
def StaysAnswered {ε : Type} (one two : Except ε Bool) : Prop :=
  ∀ a, one = .ok a → ∃ b, two = .ok b ∧ (a = true → b = true)

namespace StaysAnswered

variable {ε ε' : Type} {one two : Except ε Bool}

theorem refl (one : Except ε Bool) : StaysAnswered one one := fun a known => ⟨a, known, id⟩

theorem true_of_true (stays : StaysAnswered one two) (yes : one = .ok true) : two = .ok true := by
  obtain ⟨b, known, still⟩ := stays true yes
  rw [known, still rfl]

theorem mapError (stays : StaysAnswered one two) (f : ε → ε') :
    StaysAnswered (one.mapError f) (two.mapError f) := by
  intro a known
  cases one with
  | error e => exact nomatch known
  | ok a' =>
    cases known
    obtain ⟨b, known', still⟩ := stays a rfl
    exact ⟨b, by rw [known']; rfl, still⟩

theorem orElse {later later' : Except ε Bool} (first : StaysAnswered one two)
    (second : StaysAnswered later later') :
    StaysAnswered (one >>= fun yes => if yes = true then pure true else later)
      (two >>= fun yes => if yes = true then pure true else later') := by
  intro a known
  cases one with
  | error e => exact nomatch known
  | ok a' =>
    obtain ⟨b, known', still⟩ := first a' rfl
    rw [known']
    cases b with
    | true => exact ⟨true, rfl, fun _ => rfl⟩
    | false =>
      have no : a' = false := by
        cases a' with
        | true => exact absurd (still rfl) Bool.false_ne_true
        | false => rfl
      rw [no] at known
      exact second a known

theorem anyM {α : Type} {f g : α → Except ε Bool} {xs : List α}
    (each : ∀ x ∈ xs, StaysAnswered (f x) (g x)) : StaysAnswered (xs.anyM f) (xs.anyM g) := by
  induction xs with
  | nil => exact refl _
  | cons x rest ih =>
    have shape : ∀ h : α → Except ε Bool, (x :: rest).anyM h =
        (h x >>= fun yes => if yes = true then pure true else rest.anyM h) := by
      intro h
      rw [List.anyM]
      refine congrArg (h x >>= ·) (funext fun yes => ?_)
      cases yes <;> rfl
    rw [shape, shape]
    exact (each x List.mem_cons_self).orElse (ih fun y member => each y (List.mem_cons_of_mem x member))

end StaysAnswered

/-- An entry of a classpath that shows the same in other files; if it is a directory, what it holds is
still there. -/
structure EntryStays (t t' : FileTree) (entry : Path) : Prop where
  normal : entry.IsNormal
  status : t'.status? entry.text = t.status? entry.text
  holds : ∀ name x, t.get? (t.placeOf entry ++ [name]) = some x →
    ∃ y, t'.get? (t'.placeOf entry ++ [name]) = some y ∧ x.SameKind y

section
variable {t t' : FileTree} {entry : Path} {name : String}

theorem EntryStays.probe (stays : EntryStays t t' entry) (unlinked : t.IsUnlinked)
    (unlinked' : t'.IsUnlinked) (directory : t.status? entry.text = .ok (some .directory))
    (plain : '/' ∉ name.toList) (down : name ≠ ".." ∧ name ≠ ".") {asks : Option Entry → Bool}
    (no : asks none = false) (kind : ∀ x y, x.SameKind y → asks (some x) = asks (some y)) :
    StaysAnswered ((t.status? (entry.child name).text).map asks)
      ((t'.status? (entry.child name).text).map asks) := by
  have directory' : t'.status? entry.text = .ok (some .directory) := stays.status.trans directory
  by_cases bare : name = ""
  · have same : entry.child name = entry := by
      rw [bare]
      show entry.resolve ⟨.here, []⟩ = entry
      rw [Path.parts_resolve_of_relative entry rfl, List.append_nil]
    rw [same, directory, directory']
    exact .refl _
  · have part : Path.IsNormalPart name := ⟨by simp [Path.isPart, bare, down.2], plain⟩
    rw [FileTree.status?_child unlinked stays.normal part down.1 directory,
      FileTree.status?_child unlinked' stays.normal part down.1 directory']
    unfold FileTree.childStatus
    dsimp only
    split
    · exact .refl _
    · split
      · exact .refl _
      · intro a known
        refine ⟨_, rfl, fun yes => ?_⟩
        cases there : t.get? (t.placeOf entry ++ [name]) with
        | none =>
          rw [there] at known
          cases known
          exact absurd (no.symm.trans yes) Bool.false_ne_true
        | some x =>
          rw [there] at known
          cases known
          obtain ⟨y, there', like⟩ := stays.holds name x there
          rw [there', ← kind x y like]
          exact yes

theorem EntryStays.directoryProvides (stays : EntryStays t t' entry) (unlinked : t.IsUnlinked)
    (unlinked' : t'.IsUnlinked) (directory : t.status? entry.text = .ok (some .directory))
    (plain : '/' ∉ name.toList) (dotless : '.' ∉ name.toList) :
    StaysAnswered (directoryProvides moduleSuffixes t entry name)
      (directoryProvides moduleSuffixes t' entry name) := by
  have isDirectory : StaysAnswered (t.isDirectory (entry.child name).text)
      (t'.isDirectory (entry.child name).text) := by
    refine stays.probe unlinked unlinked' directory plain ⟨?_, ?_⟩ rfl ?_
    · rintro rfl
      exact dotless (by decide)
    · rintro rfl
      exact dotless (by decide)
    · intro x y like
      cases x <;> cases y <;> simp_all [Entry.SameKind]
  refine isDirectory.orElse (.anyM fun suffix member => ?_)
  have ends : '/' ∉ suffix.toList ∧ 2 < suffix.toList.length := by
    revert suffix
    decide
  refine stays.probe unlinked unlinked' directory ?_ ⟨?_, ?_⟩ rfl ?_
  · rw [String.toList_append, List.mem_append]
    exact not_or.mpr ⟨plain, ends.1⟩
  · intro same
    have length := congrArg (·.toList.length) same
    have two : (".." : String).toList.length = 2 := rfl
    simp only [String.toList_append, List.length_append] at length
    omega
  · intro same
    have length := congrArg (·.toList.length) same
    have one : ("." : String).toList.length = 1 := rfl
    simp only [String.toList_append, List.length_append] at length
    omega
  · intro x y like
    cases x <;> cases y <;> simp_all [Entry.SameKind]

theorem EntryStays.entryProvides (stays : EntryStays t t' entry) (unlinked : t.IsUnlinked)
    (unlinked' : t'.IsUnlinked) (plain : '/' ∉ name.toList) (dotless : '.' ∉ name.toList) :
    StaysAnswered (entryProvides t entry name) (entryProvides t' entry name) := by
  unfold PluginBuild.entryProvides
  rw [stays.status]
  cases status : t.status? entry.text with
  | error e => exact .refl _
  | ok found =>
    match found with
    | some .directory =>
      exact (stays.directoryProvides unlinked unlinked' status plain dotless).mapError Failure.file
    | none | some (.link target) | some (.file content) => exact .refl _

theorem topModule_dotless (module : String) : '.' ∉ (topModule module).toList := by
  rw [topModule_eq, String.toList_ofList]
  intro member
  have taken := List.mem_takeWhile_imp member
  simp at taken

theorem topModule_plain {module : String} (plain : '/' ∉ module.toList) :
    '/' ∉ (topModule module).toList := by
  rw [topModule_eq, String.toList_ofList]
  exact fun member => plain ((List.takeWhile_prefix _).subset member)

variable {classpath : List Path} (stays : ∀ entry ∈ classpath, EntryStays t t' entry)
  (unlinked : t.IsUnlinked) (unlinked' : t'.IsUnlinked)
include stays unlinked unlinked'

theorem providedBy_stays (plain : '/' ∉ name.toList) (dotless : '.' ∉ name.toList) :
    StaysAnswered (providedBy t name classpath) (providedBy t' name classpath) := by
  induction classpath with
  | nil => exact .refl _
  | cons entry rest ih =>
    have here := (stays entry List.mem_cons_self).entryProvides unlinked unlinked' plain dotless
    exact here.orElse (ih fun other member => stays other (List.mem_cons_of_mem entry member))

theorem isProvided_stays {module : String} (plain : '/' ∉ module.toList)
    (provided : isProvided classpath t module = .ok true) : isProvided classpath t' module = .ok true := by
  unfold isProvided at provided ⊢
  split
  · rfl
  · rename_i other
    rw [if_neg other] at provided
    exact (providedBy_stays stays unlinked unlinked' (topModule_plain plain)
      (topModule_dotless module)).true_of_true provided

theorem isMet_stays {demand : Demand} (plain : ∀ module ∈ demand.modules, '/' ∉ module.toList)
    (met : demand.isMet classpath t = .ok true) : demand.isMet classpath t' = .ok true := by
  obtain ⟨clean, provided⟩ := Demand.isMet_eq_true.mp met
  refine Demand.isMet_eq_true.mpr ⟨clean, fun module member => ?_⟩
  exact isProvided_stays stays unlinked unlinked' (plain module member) (provided module member)

theorem product_stays {b : Backend} {template : Template} {source : Path} {unit : SourceUnit}
    {made : PluginClass × Outputs}
    (plain : ∀ tree, unit.tree = .ok tree → ∀ module ∈ needs template tree, '/' ∉ module.toList)
    (product : unit.product b classpath template t source = .ok made) :
    unit.product b classpath template t' source = .ok made := by
  obtain ⟨plugin, outputs⟩ := made
  obtain ⟨tree, -, -, parsed, met, -⟩ := product_ok b classpath template source product
  have met' := isMet_stays stays unlinked unlinked' (plain tree parsed) met
  have result : unit.result b classpath template t' = unit.result b classpath template t := by
    unfold SourceUnit.result SourceUnit.passes
    rw [parsed]
    dsimp only
    rw [met, met']
  rw [← product, SourceUnit.product, SourceUnit.product, result]

omit stays unlinked unlinked' in
theorem slash_notMem_needs {template : Template} (plain : '/' ∉ template.module.toList) {path : Path}
    {unit : SourceUnit} (read : unitAt template t path = .ok unit) {tree : Module}
    (parsed : unit.tree = .ok tree) : ∀ module ∈ needs template tree, '/' ∉ module.toList := by
  exact SourceUnit.slash_notMem_needs plain (unitAt_eq_ok.mp read).2 parsed

/-- What a compilation comes to in some files it comes to in others, where its source still reads the
same and what the classpath shows is still there. -/
theorem scriptOutcome_stays {b : Backend} {template : Template} {source : Path}
    {made : PluginClass × Outputs} (platform : t'.platform = t.platform)
    (absolute : t'.absolute? source = t.absolute? source)
    (read : ∀ bytes, t.read (t.absolute source).text = .ok bytes →
      t'.read (t.absolute source).text = .ok bytes)
    (plain : '/' ∉ template.module.toList)
    (outcome : scriptOutcome b classpath template t source = .ok made) :
    scriptOutcome b classpath template t' source = .ok made := by
  unfold scriptOutcome at outcome ⊢
  split at outcome
  · exact nomatch outcome
  · rename_i root here
    split at outcome
    · exact nomatch outcome
    · rename_i unit loaded
      rw [absolute, here]
      dsimp only
      obtain rfl := FileTree.absolute_of_absolute? here
      obtain ⟨content, made'⟩ := unitAt_eq_ok.mp loaded
      have there : unitAt template t' (t.absolute source) = .ok unit :=
        unitAt_eq_ok.mpr ⟨read _ content, platform.symm ▸ made'⟩
      rw [there]
      dsimp only
      cases product : unit.product b classpath template t source with
      | error e =>
        rw [product] at outcome
        exact nomatch outcome
      | ok made' =>
        rw [product] at outcome
        have names : ∀ tree, unit.tree = .ok tree → ∀ module ∈ needs template tree, '/' ∉ module.toList :=
          fun tree => slash_notMem_needs plain loaded
        rw [product_stays stays unlinked unlinked' names product]
        exact outcome

end

end PluginBuild
