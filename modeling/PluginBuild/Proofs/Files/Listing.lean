import Mathlib.Data.List.Sort
import Mathlib.Data.Prod.Lex
import Mathlib.Data.String.Basic
import PluginBuild.Proofs.Files.Sound

/-!
Listings of directories. The names of a directory are those of its entries in their order, each of
them once; so a listing depends on what is there only, and not on how it came there.
-/

namespace PluginBuild

theorem Platform.lists_iff {s : Platform} {directory : List String} {first second : String} :
    s.lists directory first second = true ↔
      toLex (s.rank directory first, first) ≤ toLex (s.rank directory second, second) := by
  rw [Prod.Lex.toLex_le_toLex]
  simp [Platform.lists]

end PluginBuild

namespace PluginBuild.Files

open PluginBuild.Text

namespace FileTree

/-- One name is listed before another, or it is that name. -/
def Lists (t : FileTree) (p : Place) (first second : String) : Prop :=
  t.platform.lists p first second = true

instance (t : FileTree) (p : Place) : DecidableRel (t.Lists p) := fun first second =>
  inferInstanceAs (Decidable (t.platform.lists p first second = true))

instance (t : FileTree) (p : Place) : Std.Total (t.Lists p) where
  total _ _ := (le_total _ _).imp Platform.lists_iff.mpr Platform.lists_iff.mpr

instance (t : FileTree) (p : Place) : IsTrans String (t.Lists p) where
  trans _ _ _ one two :=
    Platform.lists_iff.mpr ((Platform.lists_iff.mp one).trans (Platform.lists_iff.mp two))

instance (t : FileTree) (p : Place) : Std.Antisymm (t.Lists p) where
  antisymm _ _ one two := by
    have same := (Platform.lists_iff.mp one).antisymm (Platform.lists_iff.mp two)
    exact (Prod.mk.inj (toLex_inj.mp same)).2

theorem lists_of_platform {t t' : FileTree} (same : t'.platform = t.platform) (p : Place) :
    t'.Lists p = t.Lists p := by
  unfold Lists
  rw [same]

theorem insertName_eq_orderedInsert (t : FileTree) (p : Place) (name : String) (rest : List String) :
    t.insertName p name rest = rest.orderedInsert (t.Lists p) name := by
  induction rest with
  | nil => rfl
  | cons first rest ih =>
    rw [insertName, List.orderedInsert_cons, ih]
    rfl

theorem names_eq_insertionSort (t : FileTree) (p : Place) : t.names p =
    (t.entries.filterMap fun entry => nameIn? p entry.1).insertionSort (t.Lists p) := by
  unfold names
  induction t.entries.filterMap fun entry => nameIn? p entry.1 with
  | nil => rfl
  | cons name rest ih =>
    rw [List.foldr_cons, ih, insertName_eq_orderedInsert, List.insertionSort_cons]

theorem nameIn?_eq_some {p q : Place} {name : String} :
    nameIn? p q = some name ↔ q = p ++ [name] := by
  unfold nameIn?
  constructor
  · intro found
    split at found
    · rename_i same
      rw [← same]
      exact (List.dropLast_append_getLast? name found).symm
    · exact nomatch found
  · rintro rfl
    simp

theorem mem_names {t : FileTree} {p : Place} {name : String} :
    name ∈ t.names p ↔ (t.get? (p ++ [name])).isSome = true := by
  rw [names_eq_insertionSort, List.mem_insertionSort, List.mem_filterMap]
  constructor
  · rintro ⟨entry, member, found⟩
    rw [← nameIn?_eq_some.mp found]
    exact get?_isSome_of_mem member
  · intro there
    obtain ⟨x, there⟩ := Option.isSome_iff_exists.mp there
    exact ⟨_, mem_of_get? (by simp) there, nameIn?_eq_some.mpr rfl⟩

theorem pairwise_names (t : FileTree) (p : Place) : (t.names p).Pairwise (t.Lists p) := by
  rw [names_eq_insertionSort]
  exact List.pairwise_insertionSort _ _

theorem nodup_names {t : FileTree} (sound : t.IsSound) (p : Place) : (t.names p).Nodup := by
  rw [names_eq_insertionSort, (List.perm_insertionSort _ _).nodup_iff]
  have distinct := sound.distinct
  rw [List.Nodup, List.pairwise_map] at distinct
  refine List.pairwise_filterMap.mpr (distinct.imp ?_)
  intro one two differ name first name' second same
  rw [nameIn?_eq_some.mp first, nameIn?_eq_some.mp second, same] at differ
  exact differ rfl

theorem names_filter {t t' : FileTree} (sound : t.IsSound) (sound' : t'.IsSound) (grows : t.Grows t')
    (p : Place) :
    (t'.names p).filter (fun name => (t.get? (p ++ [name])).isSome) = t.names p := by
  have ordered := pairwise_names t' p
  rw [lists_of_platform grows.platform] at ordered
  refine List.Perm.eq_of_pairwise' (ordered.sublist List.filter_sublist) (pairwise_names t p) ?_
  refine (List.perm_ext_iff_of_nodup ((nodup_names sound' p).filter _) (nodup_names sound p)).mpr ?_
  intro name
  rw [List.mem_filter, mem_names, mem_names]
  constructor
  · exact And.right
  · intro there
    obtain ⟨x, here⟩ := Option.isSome_iff_exists.mp there
    obtain ⟨now, later, -⟩ := grows.keeps _ x here
    exact ⟨by simp [later], there⟩

def subdirectories (t : FileTree) (p : Place) : List String :=
  (t.names p).filter fun name => t.get? (p ++ [name]) == some .directory

def leaves (t : FileTree) (p : Place) : List String :=
  (t.names p).filter fun name => t.get? (p ++ [name]) != some .directory

theorem mem_subdirectories {t : FileTree} {p : Place} {name : String} :
    name ∈ t.subdirectories p ↔ t.get? (p ++ [name]) = some .directory := by
  rw [subdirectories, List.mem_filter, mem_names]
  constructor
  · rintro ⟨-, same⟩
    simpa using same
  · intro there
    simp [there]

theorem mem_leaves {t : FileTree} {p : Place} {name : String} (unlinked : t.IsUnlinked) :
    name ∈ t.leaves p ↔ ∃ content, t.get? (p ++ [name]) = some (.file content) := by
  rw [leaves, List.mem_filter, mem_names]
  constructor
  · rintro ⟨there, differ⟩
    obtain ⟨x, here⟩ := Option.isSome_iff_exists.mp there
    cases x with
    | file content => exact ⟨content, here⟩
    | link target => exact absurd here (unlinked.get?_ne _ _)
    | directory => simp [here] at differ
  · rintro ⟨content, there⟩
    simp [there]

theorem isListedDirectory_eq {t : FileTree} (unlinked : t.IsUnlinked) (path : String) (p : Place)
    (name : String) :
    t.isListedDirectory path p name = (t.get? (p ++ [name]) == some .directory) := by
  unfold isListedDirectory
  match there : t.get? (p ++ [name]) with
  | none | some (.file _) | some .directory => rfl
  | some (.link target) => exact absurd there (unlinked.get?_ne _ _)

theorem list_of_locate {t : FileTree} (unlinked : t.IsUnlinked) {s : String}
    {p : Place} (found : t.locate true s = .ok (.found p .directory)) :
    t.list s = .ok ⟨t.subdirectories p, t.leaves p⟩ := by
  unfold list
  simp only [found, List.partition_eq_filter_filter]
  refine congrArg Except.ok ?_
  unfold subdirectories leaves
  congr 1
  · exact List.filter_congr fun name _ => isListedDirectory_eq unlinked s p name
  · exact List.filter_congr fun name _ => congrArg not (isListedDirectory_eq unlinked s p name)

theorem list_ok {t : FileTree} {s : String} {listing : Listing} (done : t.list s = .ok listing) :
    ∃ p, t.locate true s = .ok (.found p .directory) := by
  unfold list at done
  split at done
  · exact nomatch done
  · exact nomatch done
  · rename_i p located
    exact ⟨p, located⟩
  · exact nomatch done

theorem subdirectories_filter {t t' : FileTree} (sound : t.IsSound) (sound' : t'.IsSound)
    (grows : t.Grows t') (p : Place) :
    (t'.subdirectories p).filter (fun name => (t.get? (p ++ [name])).isSome) =
      t.subdirectories p := by
  rw [subdirectories, List.filter_filter]
  conv => rhs; rw [subdirectories, ← names_filter sound sound' grows p, List.filter_filter]
  refine List.filter_congr fun name member => ?_
  cases there : t.get? (p ++ [name]) with
  | none => simp
  | some x =>
    obtain ⟨now, later, like⟩ := grows.keeps _ x there
    rw [later]
    cases x <;> cases now <;> simp_all [Entry.SameKind]

theorem leaves_filter {t t' : FileTree} (sound : t.IsSound) (unlinked : t.IsUnlinked)
    (sound' : t'.IsSound) (unlinked' : t'.IsUnlinked) (grows : t.Grows t') {p : Place}
    {wanted : String → Bool} (kept : ∀ name content, wanted name = true →
      t'.get? (p ++ [name]) = some (.file content) → ∃ old, t.get? (p ++ [name]) = some (.file old)) :
    (t'.leaves p).filter wanted = (t.leaves p).filter wanted := by
  have pairwise : ∀ t : FileTree, ((t.leaves p).filter wanted).Pairwise (t.Lists p) := fun t =>
    (pairwise_names t p).sublist (List.filter_sublist.trans List.filter_sublist)
  have pairwise' := pairwise t'
  rw [lists_of_platform grows.platform] at pairwise'
  have nodup : ∀ {t : FileTree}, t.IsSound → ((t.leaves p).filter wanted).Nodup := fun sound =>
    ((nodup_names sound p).filter _).filter _
  refine List.Perm.eq_of_pairwise' pairwise' (pairwise t) ?_
  refine (List.perm_ext_iff_of_nodup (nodup sound') (nodup sound)).mpr fun name => ?_
  rw [List.mem_filter, List.mem_filter, mem_leaves unlinked', mem_leaves unlinked]
  constructor
  · rintro ⟨⟨content, there⟩, asked⟩
    exact ⟨kept name content asked there, asked⟩
  · rintro ⟨⟨content, there⟩, asked⟩
    exact ⟨grows.file there, asked⟩

end FileTree

end PluginBuild.Files
