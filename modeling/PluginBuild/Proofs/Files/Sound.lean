import Mathlib.Data.List.Induction
import PluginBuild.Proofs.Entries
import PluginBuild.Proofs.Files.Access

/-!
Trees of files as they are: every place has one entry at most, its last name is a name, and the place
above it is a directory. In such a tree without links a way leads to the place that its names write.
-/

namespace PluginBuild.Files

open PluginBuild.Text

/-- A name that an entry has: one that can be looked up. -/
structure IsEntryName (name : String) : Prop where
  valid : IsFileName name
  short : name.utf8ByteSize ≤ maxNameLength

instance (name : String) : Decidable (IsEntryName name) :=
  decidable_of_iff (IsFileName name ∧ name.utf8ByteSize ≤ maxNameLength)
    ⟨fun ⟨a, b⟩ => ⟨a, b⟩, fun ⟨a, b⟩ => ⟨a, b⟩⟩

theorem IsEntryName.isLookedUp {name : String} (valid : IsEntryName name) : IsLookedUp name :=
  ⟨valid.valid.notAbove, valid.short⟩

def Entry.isLink : Entry → Bool
  | .link _ => true
  | _ => false

namespace FileTree

def IsUnlinked (t : FileTree) : Prop := ∀ entry ∈ t.entries, entry.2.isLink = false

instance (t : FileTree) : Decidable t.IsUnlinked :=
  inferInstanceAs (Decidable (∀ entry ∈ t.entries, entry.2.isLink = false))

/-- A place that an entry may have: its last name is a name, and a directory is above it. -/
structure IsSpot (t : FileTree) (p : Place) : Prop where
  named : ∃ name ∈ p.getLast?, IsEntryName name
  above : t.get? p.dropLast = some .directory

instance (t : FileTree) (p : Place) : Decidable (t.IsSpot p) :=
  decidable_of_iff ((∃ name ∈ p.getLast?, IsEntryName name) ∧ t.get? p.dropLast = some .directory)
    ⟨fun ⟨a, b⟩ => ⟨a, b⟩, fun ⟨a, b⟩ => ⟨a, b⟩⟩

/-- A tree as the operations make it. -/
structure IsSound (t : FileTree) : Prop where
  distinct : (t.entries.map (·.1)).Nodup
  spots : ∀ entry ∈ t.entries, t.IsSpot entry.1
  current : t.get? t.current = some .directory

instance (t : FileTree) : Decidable t.IsSound :=
  decidable_of_iff ((t.entries.map (·.1)).Nodup ∧ (∀ entry ∈ t.entries, t.IsSpot entry.1) ∧
      t.get? t.current = some .directory)
    ⟨fun ⟨a, b, c⟩ => ⟨a, b, c⟩, fun ⟨a, b, c⟩ => ⟨a, b, c⟩⟩

variable {t t' : FileTree} {p : Place} {x : Entry}

theorem mem_of_get? (inside : p ≠ []) (there : t.get? p = some x) : (p, x) ∈ t.entries := by
  rw [get?, if_neg inside] at there
  exact mem_of_lookup there

theorem get?_isSome_of_mem {entry : Place × Entry} (member : entry ∈ t.entries) :
    (t.get? entry.1).isSome = true := by
  unfold get?
  split
  · rfl
  · cases found : t.entries.lookup entry.1 with
    | some x => rfl
    | none =>
      have differ := List.lookup_eq_none_iff.mp found entry member
      simp at differ

theorem IsUnlinked.get?_ne (unlinked : t.IsUnlinked) (p : Place) (target : String) :
    t.get? p ≠ some (.link target) := by
  intro there
  by_cases inside : p = []
  · subst inside
    simp at there
  · have plain := unlinked _ (mem_of_get? inside there)
    simp [Entry.isLink] at plain

namespace IsSound

theorem isSpot (sound : t.IsSound) (inside : p ≠ []) (there : t.get? p = some x) : t.IsSpot p :=
  sound.spots _ (mem_of_get? inside there)

theorem named (sound : t.IsSound) {name : String} (there : t.get? (p ++ [name]) = some x) :
    IsEntryName name := by
  obtain ⟨last, here, valid⟩ := (sound.isSpot (by simp) there).named
  rw [List.getLast?_concat] at here
  cases here
  exact valid

theorem parent (sound : t.IsSound) {name : String} (there : t.get? (p ++ [name]) = some x) :
    t.get? p = some .directory := by
  have above := (sound.isSpot (by simp) there).above
  rwa [List.dropLast_concat] at above

theorem get?_below_free (sound : t.IsSound) (free : t.get? p = none) (name : String) :
    t.get? (p ++ [name]) = none := by
  cases there : t.get? (p ++ [name]) with
  | none => rfl
  | some x => exact nomatch (sound.parent there).symm.trans free

theorem above (sound : t.IsSound) {more : Place} (nonempty : more ≠ [])
    (there : t.get? (p ++ more) = some x) : t.get? p = some .directory := by
  induction more using List.reverseRecOn generalizing x with
  | nil => exact absurd rfl nonempty
  | append_singleton front name ih =>
    rw [← List.append_assoc] at there
    have upper := sound.parent there
    by_cases bare : front = []
    · rwa [bare, List.append_nil] at upper
    · exact ih bare upper

theorem dropLast (sound : t.IsSound) (here : t.get? p = some .directory) :
    t.get? p.dropLast = some .directory := by
  by_cases inside : p = []
  · rw [inside]
    rfl
  · exact (sound.isSpot inside here).above

end IsSound

/-- A new entry at a fitting place, or a file in place of a file, keeps a tree sound. -/
theorem Sets.isSound (sets : t.Sets p x t') (sound : t.IsSound) (spot : t.IsSpot p) :
    t'.IsSound := by
  have stays : ∀ q, t.get? q = some .directory → t'.get? q = some .directory := fun q here =>
    sets.grows.directory here
  refine ⟨?_, ?_, ?_⟩
  · rw [sets.eq, put, List.map_cons]
    refine List.nodup_cons.mpr ⟨?_, ?_⟩
    · intro member
      obtain ⟨entry, kept, same⟩ := List.mem_map.mp member
      simp [same] at kept
    · exact (List.filter_sublist.map _).nodup sound.distinct
  · intro entry member
    rw [sets.eq, put] at member
    rcases List.mem_cons.mp member with rfl | old
    · exact ⟨spot.named, stays _ spot.above⟩
    · have before := sound.spots entry (List.mem_filter.mp old).1
      exact ⟨before.named, stays _ before.above⟩
  · rw [sets.grows.current]
    exact stays _ sound.current

theorem Sets.isUnlinked (sets : t.Sets p x t') (unlinked : t.IsUnlinked) (plain : x.isLink = false) :
    t'.IsUnlinked := by
  intro entry member
  rw [sets.eq, put] at member
  rcases List.mem_cons.mp member with rfl | old
  · exact plain
  · exact unlinked entry (List.mem_filter.mp old).1

end FileTree

/-- The place that names write, seen from a directory. -/
def writtenPlace (place : Place) (names : List String) : Place :=
  names.foldl (fun p name => if name = ".." then p.dropLast else p ++ [name]) place

theorem writtenPlace_of_down {place : Place} {names : List String} (down : ".." ∉ names) :
    writtenPlace place names = place ++ names := by
  induction names generalizing place with
  | nil => simp [writtenPlace]
  | cons name rest ih =>
    have differ : name ≠ ".." := fun same => down (same ▸ List.mem_cons_self)
    have later : writtenPlace (place ++ [name]) rest = place ++ [name] ++ rest :=
      ih fun member => down (List.mem_cons_of_mem name member)
    rw [writtenPlace, List.foldl_cons, if_neg differ, ← writtenPlace, later]
    simp

namespace Way

variable {t : FileTree} {follow : Bool} {links : Nat} {place p : Place} {names : List String}
  {ends : Bool} {d : Destination}

theorem place_eq (unlinked : t.IsUnlinked) (way : Way t follow links place names ends d) :
    d.place = writtenPlace place names := by
  induction way with
  | here => rfl
  | above _ ih => simpa [writtenPlace] using ih
  | free valid => simp [writtenPlace, valid.1, Destination.place]
  | directory valid _ _ ih => simpa [writtenPlace, valid.1] using ih
  | file valid => simp [writtenPlace, valid.1, Destination.place]
  | link _ entry | through _ entry => exact absurd entry (unlinked.get?_ne _ _)

theorem append {front back : List String} {ends' : Bool} {fewer : Nat} {middle : Place}
    (unlinked : t.IsUnlinked)
    (first : Way t true links place front ends (.found middle .directory))
    (second : Way t follow fewer middle back ends' d) :
    Way t follow fewer place (front ++ back) ends' d := by
  generalize same : Destination.found middle .directory = target at first
  induction first with
  | here =>
    cases same
    exact second
  | above _ ih => exact .above (ih same)
  | free => exact nomatch same
  | directory valid entry _ ih => exact .directory valid entry (ih same)
  | file => exact nomatch same
  | link _ entry | through _ entry => exact absurd entry (unlinked.get?_ne _ _)

theorem entry (sound : t.IsSound) (start : t.get? place = some .directory) {x : Entry}
    (way : Way t follow links place names ends (.found p x)) : t.get? p = some x := by
  generalize same : Destination.found p x = d at way
  induction way with
  | here =>
    cases same
    exact start
  | above _ ih => exact ih (sound.dropLast start) same
  | free => exact nomatch same
  | directory _ entry _ ih => exact ih entry same
  | file _ entry | link _ entry =>
    cases same
    exact entry
  | through _ _ _ _ ih =>
    refine ih ?_ same
    split
    · rfl
    · exact start

theorem spot (sound : t.IsSound) (unlinked : t.IsUnlinked) (start : t.get? place = some .directory)
    (valid : ∀ name ∈ names, name ≠ ".." → IsFileName name)
    (way : Way t follow links place names ends (.free p)) : t.IsSpot p := by
  generalize same : Destination.free p = d at way
  induction way with
  | here | file | link => exact nomatch same
  | above _ ih =>
    exact ih (sound.dropLast start) (fun name member => valid name (List.mem_cons_of_mem _ member)) same
  | @free _ place name _ lookedUp =>
    cases same
    have fileName := valid name List.mem_cons_self lookedUp.1
    exact ⟨⟨name, by simp, fileName, lookedUp.2⟩, by simpa using start⟩
  | directory _ entry _ ih =>
    exact ih entry (fun name member => valid name (List.mem_cons_of_mem _ member)) same
  | through _ entry => exact absurd entry (unlinked.get?_ne _ _)

end Way

namespace FileTree

def placeOf (t : FileTree) (p : Path) : Place :=
  writtenPlace (if p.isAbsolute then [] else t.current) p.parts

variable {t t' : FileTree}

theorem origin_directory (sound : t.IsSound) (s : String) :
    t.get? (t.origin s) = some .directory := by
  unfold origin
  split
  · rfl
  · exact sound.current

theorem isFileName_of_route {s name : String} (usable : IsPathText s)
    (member : name ∈ (Route.ofString s).names) (differ : name ≠ "..") : IsFileName name := by
  obtain ⟨piece, counts⟩ := List.mem_filter.mp member
  simp only [Bool.and_eq_true, bne_iff_ne, ne_eq] at counts
  exact ⟨counts.1, counts.2, differ, absent_of_mem_split piece,
    fun inside => usable.noNull (mem_of_mem_split piece inside)⟩

theorem isSpot_of_locate {follow : Bool} {s : String} {p : Place} (sound : t.IsSound)
    (unlinked : t.IsUnlinked) (free : t.locate follow s = .ok (.free p)) : t.IsSpot p := by
  obtain ⟨usable, way⟩ := locate_eq_ok_iff.mp free
  exact way.spot sound unlinked (origin_directory sound s) fun name member differ =>
    isFileName_of_route usable member differ

theorem locate_entry {follow : Bool} {s : String} {p : Place} {x : Entry} (sound : t.IsSound)
    (found : t.locate follow s = .ok (.found p x)) : t.get? p = some x :=
  (locate_eq_ok_iff.mp found).2.entry sound (origin_directory sound s)

theorem locate_place {follow : Bool} {p : Path} {d : Destination} (unlinked : t.IsUnlinked)
    (normal : p.IsNormal) (found : t.locate follow p.text = .ok d) : d.place = t.placeOf p := by
  obtain ⟨-, way⟩ := locate_eq_ok_iff.mp found
  rw [way.place_eq unlinked, Path.route_text normal, origin, Path.startsWith_text normal, placeOf]

theorem makeDirectory_isSound {s : String} (sound : t.IsSound) (unlinked : t.IsUnlinked)
    (done : t.makeDirectory s = .ok () t') : t'.IsSound ∧ t'.IsUnlinked := by
  obtain ⟨p, free, sets, -⟩ := makeDirectory_ok done
  exact ⟨sets.isSound sound (isSpot_of_locate sound unlinked free), sets.isUnlinked unlinked rfl⟩

theorem write_isSound {s : String} {content : Bytes} (sound : t.IsSound) (unlinked : t.IsUnlinked)
    (done : t.write s content = .ok () t') : t'.IsSound ∧ t'.IsUnlinked := by
  obtain ⟨d, located, sets, -⟩ := write_ok done
  refine ⟨sets.isSound sound ?_, sets.isUnlinked unlinked rfl⟩
  cases d with
  | free p => exact isSpot_of_locate sound unlinked located
  | found p x => exact sound.isSpot sets.inside (locate_entry sound located)

end FileTree

theorem MakesAbove.isSound {p : Path} {t t' : FileTree} (makes : MakesAbove p t t')
    (sound : t.IsSound) (unlinked : t.IsUnlinked) : t'.IsSound ∧ t'.IsUnlinked := by
  induction makes with
  | nothing => exact ⟨sound, unlinked⟩
  | directory _ made _ ih =>
    obtain ⟨sound, unlinked⟩ := FileTree.makeDirectory_isSound sound unlinked made
    exact ih sound unlinked

end PluginBuild.Files
