import Mathlib.Data.List.Dedup
import Mathlib.Data.List.Infix
import PluginBuild.Proofs.Files.Listing
import PluginBuild.Proofs.Probes
import PluginBuild.Script.Codecs

/-!
Modules in an archive, read off the names of its members, and the tree that these members unpack to.
-/

namespace PluginBuild

open PluginBuild.Files PluginBuild.Text

/-- Endings of module files. Each begins with a dot, and none stands before a longer one that ends
with it; so the first that fits a file's name is all that follows a name without dots. -/
structure AreEndings (suffixes : List String) : Prop where
  dotted : ∀ suffix ∈ suffixes, startsWith suffix "." = true
  longerFirst : suffixes.Pairwise fun first later => endsWith later first = true → later = first

instance (suffixes : List String) : Decidable (AreEndings suffixes) :=
  decidable_of_iff ((∀ suffix ∈ suffixes, startsWith suffix "." = true) ∧
      suffixes.Pairwise fun first later => endsWith later first = true → later = first)
    ⟨fun ⟨a, b⟩ => ⟨a, b⟩, fun ⟨a, b⟩ => ⟨a, b⟩⟩

theorem moduleSuffixes_areEndings : AreEndings moduleSuffixes := by decide

section
variable {suffixes : List String} {name suffix member : String}

theorem endsWith_of_undotted {other : String} (undotted : '.' ∉ name.toList)
    (dotted : startsWith other "." = true) (fits : endsWith (name ++ suffix) other = true) :
    endsWith suffix other = true := by
  obtain ⟨front, same⟩ := endsWith_iff.mp fits
  have chars : name.toList ++ suffix.toList = front.toList ++ other.toList := by
    rw [← String.toList_append, ← String.toList_append, same]
  rw [endsWith, List.isSuffixOf_iff_suffix]
  rcases List.append_eq_append_iff.mp chars with ⟨more, -, cut⟩ | ⟨more, cut, rest⟩
  · -- the ending begins behind the name
    exact ⟨more, cut.symm⟩
  · cases more with
    | nil => exact ⟨[], by simpa using rest⟩
    | cons c more =>
      -- it would begin inside the name, with a dot
      obtain ⟨tail, beginning⟩ := List.isPrefixOf_iff_prefix.mp dotted
      rw [← beginning] at rest
      obtain ⟨rfl, -⟩ := List.cons.inj rest
      exact absurd (cut ▸ List.mem_append_right _ List.mem_cons_self) undotted

theorem AreEndings.find?_eq (endings : AreEndings suffixes) (undotted : '.' ∉ name.toList)
    (listed : suffix ∈ suffixes) : suffixes.find? (endsWith (name ++ suffix)) = some suffix := by
  have itself : endsWith (name ++ suffix) suffix = true := endsWith_iff.mpr ⟨name, rfl⟩
  cases found : suffixes.find? (endsWith (name ++ suffix)) with
  | none => exact absurd itself (List.find?_eq_none.mp found suffix listed)
  | some first =>
    obtain ⟨fits, before, after, split, skipped⟩ := List.find?_eq_some_iff_append.mp found
    have inside := endsWith_of_undotted undotted (endings.dotted first (by simp [split])) fits
    rw [split] at listed
    rcases List.mem_append.mp listed with earlier | rest
    · exact absurd itself (by simpa using skipped suffix earlier)
    · rcases List.mem_cons.mp rest with rfl | later
      · rfl
      · have ordered := endings.longerFirst
        rw [split] at ordered
        have shorter := (List.pairwise_cons.mp (List.pairwise_append.mp ordered).2.1).1 suffix later
        rw [shorter inside]

theorem moduleOfMember?_eq_some_iff (endings : AreEndings suffixes) (valid : IsModuleName name) :
    moduleOfMember? suffixes member = some name ↔
      (∃ rest, member = name ++ "/" ++ rest) ∨
        '/' ∉ member.toList ∧ ∃ suffix ∈ suffixes, member = name ++ suffix := by
  by_cases divided : '/' ∈ member.toList
  · obtain ⟨front, back, absent, rfl⟩ := exists_cut Path.slash_single divided
    have read : moduleOfMember? suffixes (front ++ "/" ++ back) = some front := by
      simp only [moduleOfMember?, splitFirst_append Path.slash_single absent]
    rw [read]
    constructor
    · rintro ⟨⟩
      exact .inl ⟨back, rfl⟩
    · rintro (⟨rest, same⟩ | ⟨none, -⟩)
      · rw [cut_unique Path.slash_single absent valid.undivided same]
      · exact absurd divided none
  · have read : moduleOfMember? suffixes member = (suffixes.find? (endsWith member)).map fun suffix =>
        String.ofList (member.toList.take (member.length - suffix.length)) := by
      simp only [moduleOfMember?, splitFirst_of_absent divided]
    have cut (front suffix : String) : String.ofList ((front ++ suffix).toList.take
        ((front ++ suffix).length - suffix.length)) = front := by
      apply String.toList_inj.mp
      simp [← String.length_toList]
    rw [read, Option.map_eq_some_iff]
    constructor
    · rintro ⟨suffix, found, same⟩
      obtain ⟨front, rfl⟩ := endsWith_iff.mp (List.find?_some found)
      rw [cut] at same
      exact .inr ⟨divided, suffix, List.mem_of_find?_eq_some found, by rw [same]⟩
    · rintro (⟨rest, rfl⟩ | ⟨-, suffix, listed, rfl⟩)
      · simp at divided
      · exact ⟨suffix, endings.find?_eq valid.undotted listed, cut name suffix⟩

theorem mem_modulesOfMembers {members : List String} (endings : AreEndings suffixes)
    (valid : IsModuleName name) : name ∈ modulesOfMembers suffixes members ↔
      (∃ rest, name ++ "/" ++ rest ∈ members) ∨
        ∃ suffix ∈ suffixes, '/' ∉ (name ++ suffix).toList ∧ name ++ suffix ∈ members := by
  simp only [modulesOfMembers, List.mem_filterMap, moduleOfMember?_eq_some_iff endings valid]
  constructor
  · rintro ⟨member, listed, ⟨rest, rfl⟩ | ⟨top, suffix, known, rfl⟩⟩
    · exact .inl ⟨rest, listed⟩
    · exact .inr ⟨suffix, known, top, listed⟩
  · rintro (⟨rest, listed⟩ | ⟨suffix, known, top, listed⟩)
    · exact ⟨_, listed, .inl ⟨rest, rfl⟩⟩
    · exact ⟨_, listed, .inr ⟨top, suffix, known, rfl⟩⟩

end

/-- The place of a member below the directory that an archive is unpacked to. -/
def memberPlace (member : String) : Place :=
  if endsWith member "/" then (split '/' member).dropLast else split '/' member

/-- Members of an archive that can be unpacked: they are named by names of files, and nothing lies
below the place of a file. -/
structure DenotesTree (members : List String) : Prop where
  named : ∀ member ∈ members, ∀ part ∈ memberPlace member, IsFileName part
  apart : ∀ file ∈ members, endsWith file "/" = false → ∀ member ∈ members,
    memberPlace file <+: memberPlace member → member = file

instance (members : List String) : Decidable (DenotesTree members) :=
  decidable_of_iff ((∀ member ∈ members, ∀ part ∈ memberPlace member, IsFileName part) ∧
      ∀ file ∈ members, endsWith file "/" = false → ∀ member ∈ members,
        memberPlace file <+: memberPlace member → member = file)
    ⟨fun ⟨a, b⟩ => ⟨a, b⟩, fun ⟨a, b⟩ => ⟨a, b⟩⟩

/-- A file among members. -/
def HoldsFile (members : List String) (p : Place) : Prop :=
  ∃ member ∈ members, endsWith member "/" = false ∧ memberPlace member = p

/-- A directory among members: one that is named, or one that something is in. -/
def HoldsDirectory (members : List String) (p : Place) : Prop :=
  ∃ member ∈ members, p <+: memberPlace member ∧ (p = memberPlace member → endsWith member "/" = true)

/-- A directory in a tree holds what members unpack to, and nothing else. -/
structure IsUnpacked (t : FileTree) (root : Place) (members : List String) : Prop where
  file : ∀ p, p ≠ [] → ((∃ content, t.get? (root ++ p) = some (.file content)) ↔ HoldsFile members p)
  directory : ∀ p, p ≠ [] → (t.get? (root ++ p) = some .directory ↔ HoldsDirectory members p)
  unlinked : ∀ p, p ≠ [] → ∀ target, t.get? (root ++ p) ≠ some (.link target)

section
variable {members : List String} {member name : String}

theorem memberPlace_of_absent (absent : '/' ∉ member.toList) :
    endsWith member "/" = false ∧ memberPlace member = [member] := by
  have ending : endsWith member "/" = false := by
    rw [Bool.eq_false_iff]
    intro ends
    obtain ⟨front, rfl⟩ := endsWith_iff.mp ends
    simp at absent
  exact ⟨ending, by simp [memberPlace, ending, split_of_absent absent]⟩

/-- A member in a directory: what is left of its place is empty only if it is the directory itself. -/
theorem memberPlace_append (absent : '/' ∉ name.toList) (back : String) : ∃ rest,
    memberPlace (name ++ "/" ++ back) = name :: rest ∧
      (rest = [] → endsWith (name ++ "/" ++ back) "/" = true) := by
  have pieces : split '/' (name ++ "/" ++ back) = name :: split '/' back := by
    rw [split_append Path.slash_single, split_of_absent absent]
    rfl
  unfold memberPlace
  rw [pieces]
  split
  · rename_i ends
    exact ⟨_, List.dropLast_cons_of_ne_nil (split_ne_nil _ _), fun _ => ends⟩
  · exact ⟨_, rfl, fun empty => absurd empty (split_ne_nil _ _)⟩

theorem memberPlace_ne_nil (member : String) : memberPlace member ≠ [] := by
  by_cases divided : '/' ∈ member.toList
  · obtain ⟨front, back, absent, rfl⟩ := exists_cut Path.slash_single divided
    obtain ⟨rest, place, -⟩ := memberPlace_append absent back
    rw [place]
    exact List.cons_ne_nil _ _
  · rw [(memberPlace_of_absent divided).2]
    exact List.cons_ne_nil _ _

theorem holdsDirectory_singleton (undivided : '/' ∉ name.toList) :
    HoldsDirectory members [name] ↔ ∃ rest, name ++ "/" ++ rest ∈ members := by
  constructor
  · rintro ⟨member, listed, before, ends⟩
    by_cases divided : '/' ∈ member.toList
    · obtain ⟨front, back, absent, rfl⟩ := exists_cut Path.slash_single divided
      obtain ⟨rest, place, -⟩ := memberPlace_append absent back
      rw [place] at before
      obtain rfl : name = front := (List.cons_prefix_cons.mp before).1
      exact ⟨back, listed⟩
    · obtain ⟨file, place⟩ := memberPlace_of_absent divided
      rw [place] at before ends
      have same : name = member := (List.cons_prefix_cons.mp before).1
      exact nomatch file.symm.trans (ends (by rw [same]))
  · rintro ⟨back, listed⟩
    obtain ⟨rest, place, ends⟩ := memberPlace_append undivided back
    refine ⟨_, listed, by simp [place], fun same => ends ?_⟩
    rw [place] at same
    exact (List.cons.inj same).2.symm

theorem holdsFile_singleton (undivided : '/' ∉ name.toList) :
    HoldsFile members [name] ↔ name ∈ members := by
  constructor
  · rintro ⟨member, listed, file, place⟩
    simp only [memberPlace, file] at place
    have whole := join_split Path.slash_single member
    rw [show split '/' member = [name] from place] at whole
    rwa [show name = member from whole]
  · intro listed
    exact ⟨name, listed, memberPlace_of_absent undivided⟩

end

/-- The entries that a member unpacks to: its own, and those of the directories that it is in. -/
def memberEntries (member : String) : List (Place × Entry) :=
  (memberPlace member, if endsWith member "/" then .directory else .file []) ::
    ((memberPlace member).dropLast.inits.filter (· ≠ [])).map (·, .directory)

/-- A tree of what members unpack to, with empty files. -/
def unpack (members : List String) : FileTree := ⟨(members.flatMap memberEntries).dedup, [], .plain⟩

section
variable {members : List String} {p : Place} {x : Entry}

theorem mem_memberEntries {member : String} : (p, x) ∈ memberEntries member ↔ p ≠ [] ∧
    (x = .directory ∧ p <+: memberPlace member ∧ (p = memberPlace member → endsWith member "/" = true) ∨
      x = .file [] ∧ endsWith member "/" = false ∧ memberPlace member = p) := by
  have above : p <+: (memberPlace member).dropLast ↔
      p <+: memberPlace member ∧ p ≠ memberPlace member := by
    have some := memberPlace_ne_nil member
    constructor
    · intro before
      refine ⟨before.trans (List.dropLast_prefix _), ?_⟩
      rintro rfl
      have shorter := before.length_le
      have positive := List.length_pos_iff.mpr some
      rw [List.length_dropLast] at shorter
      omega
    · rintro ⟨before, differ⟩
      rw [← List.dropLast_append_getLast some] at before
      rcases List.prefix_concat_iff.mp before with same | inside
      · exact absurd (same.trans (List.dropLast_append_getLast some)) differ
      · exact inside
  unfold memberEntries
  simp only [List.mem_cons, List.mem_map, List.mem_filter, List.mem_inits, Prod.mk.injEq]
  constructor
  · rintro (⟨rfl, rfl⟩ | ⟨q, ⟨inside, some⟩, rfl, rfl⟩)
    · refine ⟨memberPlace_ne_nil member, ?_⟩
      cases ends : endsWith member "/" <;> simp
    · obtain ⟨before, differ⟩ := above.mp inside
      exact ⟨by simpa using some, .inl ⟨rfl, before, fun same => absurd same differ⟩⟩
  · rintro ⟨some, ⟨rfl, before, ends⟩ | ⟨rfl, file, rfl⟩⟩
    · by_cases same : p = memberPlace member
      · exact .inl ⟨same, by simp [ends same]⟩
      · exact .inr ⟨p, ⟨above.mpr ⟨before, same⟩, by simpa using some⟩, rfl, rfl⟩
    · exact .inl ⟨rfl, by simp [file]⟩

theorem mem_unpack : (p, x) ∈ (unpack members).entries ↔ p ≠ [] ∧
    (x = .directory ∧ HoldsDirectory members p ∨ x = .file [] ∧ HoldsFile members p) := by
  simp only [unpack, List.mem_dedup, List.mem_flatMap, mem_memberEntries, HoldsDirectory, HoldsFile]
  constructor
  · rintro ⟨member, listed, some, ⟨rfl, holds⟩ | ⟨rfl, holds⟩⟩
    · exact ⟨some, .inl ⟨rfl, member, listed, holds⟩⟩
    · exact ⟨some, .inr ⟨rfl, member, listed, holds⟩⟩
  · rintro ⟨some, ⟨rfl, member, listed, holds⟩ | ⟨rfl, member, listed, holds⟩⟩
    · exact ⟨member, listed, some, .inl ⟨rfl, holds⟩⟩
    · exact ⟨member, listed, some, .inr ⟨rfl, holds⟩⟩

theorem DenotesTree.not_both (tree : DenotesTree members) (file : HoldsFile members p) :
    ¬ HoldsDirectory members p := by
  rintro ⟨other, listed', before, ends⟩
  obtain ⟨member, listed, isFile, rfl⟩ := file
  obtain rfl := tree.apart member listed isFile other listed' before
  exact nomatch isFile.symm.trans (ends rfl)

theorem DenotesTree.unique (tree : DenotesTree members) {y : Entry}
    (one : (p, x) ∈ (unpack members).entries) (two : (p, y) ∈ (unpack members).entries) : x = y := by
  obtain ⟨-, ⟨rfl, holds⟩ | ⟨rfl, holds⟩⟩ := mem_unpack.mp one
  · obtain ⟨-, ⟨rfl, -⟩ | ⟨rfl, other⟩⟩ := mem_unpack.mp two
    · rfl
    · exact absurd holds (tree.not_both other)
  · obtain ⟨-, ⟨rfl, other⟩ | ⟨rfl, -⟩⟩ := mem_unpack.mp two
    · exact absurd other (tree.not_both holds)
    · rfl

theorem get?_unpack (tree : DenotesTree members) (some : p ≠ []) :
    (unpack members).get? p = Option.some x ↔ (p, x) ∈ (unpack members).entries := by
  constructor
  · exact FileTree.mem_of_get? some
  · intro member
    obtain ⟨y, there⟩ := Option.isSome_iff_exists.mp (FileTree.get?_isSome_of_mem member)
    rw [there, tree.unique (FileTree.mem_of_get? some there) member]

theorem isUnpacked_unpack (tree : DenotesTree members) : IsUnpacked (unpack members) [] members := by
  refine ⟨fun p some => ?_, fun p some => ?_, fun p some target => ?_⟩
  all_goals simp only [List.nil_append, ne_eq, get?_unpack tree some, mem_unpack]
  · constructor
    · rintro ⟨content, -, ⟨same, -⟩ | ⟨-, holds⟩⟩
      · exact nomatch same
      · exact holds
    · intro holds
      exact ⟨[], some, .inr ⟨rfl, holds⟩⟩
  · simp [some]
  · simp

theorem isSound_unpack (tree : DenotesTree members)
    (short : ∀ member ∈ members, ∀ part ∈ memberPlace member, part.utf8ByteSize ≤ maxNameLength) :
    (unpack members).IsSound := by
  refine ⟨?_, ?_, rfl⟩
  · refine (List.nodup_dedup _).map_on ?_
    rintro ⟨p, x⟩ one ⟨q, y⟩ two same
    obtain rfl : p = q := same
    rw [tree.unique one two]
  · rintro ⟨p, x⟩ listed
    obtain ⟨some, holds⟩ := mem_unpack.mp listed
    obtain ⟨member, known, before⟩ : ∃ member ∈ members, p <+: memberPlace member := by
      rcases holds with ⟨-, member, known, before, -⟩ | ⟨-, member, known, -, rfl⟩
      · exact ⟨member, known, before⟩
      · exact ⟨member, known, List.prefix_rfl⟩
    refine ⟨⟨p.getLast some, List.getLast?_eq_some_getLast some, ?_⟩, ?_⟩
    · have part := before.subset (List.getLast_mem some)
      exact ⟨tree.named member known _ part, short member known _ part⟩
    · by_cases top : p.dropLast = []
      · rw [top]
        rfl
      · rw [get?_unpack tree top, mem_unpack]
        refine ⟨top, .inl ⟨rfl, member, known, (List.dropLast_prefix p).trans before, fun same => ?_⟩⟩
        have shorter := before.length_le
        rw [← same, List.length_dropLast] at shorter
        have positive := List.length_pos_iff.mpr some
        omega

end

end PluginBuild
