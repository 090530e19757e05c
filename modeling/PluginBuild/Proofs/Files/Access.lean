import PluginBuild.Files.Access
import PluginBuild.Proofs.Files.Growth
import PluginBuild.Proofs.Paths

/-!
What requests do to a tree of files. A write or a new directory sets one entry, at the place where
its path leads afterwards; a request that fails changes nothing, or has made some of the directories
above before it failed.
-/

namespace PluginBuild

def finalState {ε σ α : Type} : EStateM.Result ε σ α → σ
  | .ok _ s => s
  | .error _ s => s

namespace Files

open PluginBuild.Text

structure IsPathText (s : String) : Prop where
  noNull : '\x00' ∉ s.toList
  nonempty : s ≠ ""
  short : s.utf8ByteSize ≤ maxPathLength

theorem IsPathText.above {q p : Path} (usable : IsPathText p.text) (above : q.IsAtOrAbove p)
    (normal : q.IsNormal) : IsPathText q.text := by
  have short := usable.short
  rcases above.text with dot | ⟨more, longer⟩
  · rw [dot]
    exact ⟨by decide, by decide, by decide⟩
  · rw [longer, String.utf8ByteSize_append] at short
    refine ⟨fun member => usable.noNull ?_, Path.text_ne_empty normal, by omega⟩
    rw [longer, String.toList_append]
    exact List.mem_append_left _ member

namespace FileTree

def origin (t : FileTree) (s : String) : Place := if startsWith s "/" then [] else t.current

theorem locate_eq_ok_iff {t : FileTree} {follow : Bool} {s : String} {d : Destination} :
    t.locate follow s = .ok d ↔ IsPathText s ∧ Way t follow maxLinks (t.origin s)
      (Route.ofString s).names (Route.ofString s).endsInDirectory d := by
  rw [← follow_eq_ok_iff]
  unfold locate resolve
  constructor
  · intro found
    split at found
    · exact nomatch found
    rename_i noNull
    split at found
    · exact nomatch found
    rename_i d' located
    cases found
    split at located
    · exact nomatch located
    rename_i nonempty
    split at located
    · exact nomatch located
    rename_i short
    exact ⟨⟨by simpa using noNull, nonempty, Nat.le_of_not_lt short⟩, located⟩
  · rintro ⟨valid, way⟩
    rw [if_neg (by simpa using valid.noNull), if_neg valid.nonempty,
      if_neg (Nat.not_lt_of_le valid.short)]
    simp only [origin] at way
    simp only [way]

theorem locate_grow {t t' : FileTree} {follow : Bool} {s : String} {p : Place} {x : Entry}
    (found : t.locate follow s = .ok (.found p x)) (grows : t.Grows t') :
    ∃ now, t'.locate follow s = .ok (.found p now) ∧ x.SameKind now := by
  obtain ⟨valid, way⟩ := locate_eq_ok_iff.mp found
  obtain ⟨now, later, like⟩ := way.grow grows
  refine ⟨now, locate_eq_ok_iff.mpr ⟨valid, ?_⟩, like⟩
  simpa only [origin, grows.current] using later

theorem locate_grow_directory {t t' : FileTree} {follow : Bool} {s : String} {p : Place}
    (found : t.locate follow s = .ok (.found p .directory)) (grows : t.Grows t') :
    t'.locate follow s = .ok (.found p .directory) := by
  obtain ⟨now, later, like⟩ := locate_grow found grows
  rw [later, like.of_directory]

theorem locate_grow_file {t t' : FileTree} {follow : Bool} {s : String} {p : Place} {content : Bytes}
    (found : t.locate follow s = .ok (.found p (.file content))) (grows : t.Grows t') :
    ∃ now, t'.locate follow s = .ok (.found p (.file now)) ∧ t'.get? p = some (.file now) := by
  obtain ⟨now, later, like⟩ := locate_grow found grows
  obtain ⟨content, rfl⟩ := like.of_file
  exact ⟨content, later, (locate_eq_ok_iff.mp later).2.entry_of_found (by simp)⟩

theorem locate_split {t : FileTree} {follow : Bool} {anchor : Anchor} {front back : List String}
    {d : Destination} (normal : (⟨anchor, front ++ back⟩ : Path).IsNormal) (more : back ≠ [])
    (found : t.locate follow (⟨anchor, front ++ back⟩ : Path).text = .ok d) :
    ∃ root fewer, t.locate true (⟨anchor, front⟩ : Path).text = .ok (.found root .directory) ∧
      Way t follow fewer root back false d := by
  have above : (⟨anchor, front⟩ : Path).IsAtOrAbove ⟨anchor, front ++ back⟩ :=
    ⟨rfl, List.prefix_append _ _⟩
  have upper : (⟨anchor, front⟩ : Path).IsNormal := fun part member =>
    normal part (List.mem_append_left _ member)
  obtain ⟨usable, way⟩ := locate_eq_ok_iff.mp found
  rw [Path.route_text normal, origin, Path.startsWith_text normal] at way
  obtain ⟨root, fewer, first, second⟩ := way.split more
  refine ⟨root, fewer, locate_eq_ok_iff.mpr ⟨usable.above above upper, ?_⟩, ?_⟩
  · rw [Path.route_text upper, origin, Path.startsWith_text upper]
    exact first _
  · have nonempty : (front ++ back).isEmpty = false := by simp [more]
    simpa only [nonempty] using second

/-- One entry is set: a directory or a file where there was nothing, or a file in place of a
file. -/
structure Sets (t : FileTree) (p : Place) (e : Entry) (t' : FileTree) : Prop where
  eq : t' = t.put p e
  inside : p ≠ []
  fits : t.get? p = none ∨ ∃ old new, t.get? p = some (.file old) ∧ e = .file new

namespace Sets

variable {t t' : FileTree} {p : Place} {e : Entry}

theorem get? (sets : t.Sets p e t') (q : Place) : t'.get? q = if q = p then some e else t.get? q := by
  rw [sets.eq, get?_put t e sets.inside]

theorem get?_self (sets : t.Sets p e t') : t'.get? p = some e := by
  rw [sets.get?, if_pos rfl]

theorem get?_of_ne (sets : t.Sets p e t') {q : Place} (differ : q ≠ p) : t'.get? q = t.get? q := by
  rw [sets.get?, if_neg differ]

theorem grows (sets : t.Sets p e t') : t.Grows t' := by
  rw [sets.eq]
  refine .put sets.inside ?_
  intro x here
  rcases sets.fits with none | ⟨old, new, there, rfl⟩
  · simp [none] at here
  · rw [there] at here
    cases here
    trivial

end Sets

theorem write_ok {t t' : FileTree} {s : String} {content : Bytes}
    (done : t.write s content = .ok () t') : ∃ d, t.locate true s = .ok d ∧
      t.Sets d.place (.file content) t' ∧ t'.locate true s = .ok (.found d.place (.file content)) := by
  unfold write at done
  split at done
  · exact nomatch done
  · exact nomatch done
  · rename_i p x notDirectory located
    cases done
    obtain ⟨valid, way⟩ := locate_eq_ok_iff.mp located
    have other : x ≠ .directory := notDirectory
    have here := way.entry_of_found other
    have inside : p ≠ [] := by
      rintro rfl
      rw [get?_nil] at here
      exact other (Option.some.inj here).symm
    obtain ⟨old, rfl⟩ : ∃ old, x = .file old := by
      cases x with
      | file old => exact ⟨old, rfl⟩
      | directory => exact absurd rfl other
      | link target => exact absurd rfl (way.not_link rfl p target)
    have sets : t.Sets p (.file content) (t.put p (.file content)) :=
      ⟨rfl, inside, .inr ⟨old, content, here, rfl⟩⟩
    refine ⟨_, located, sets, ?_⟩
    obtain ⟨now, later, there⟩ := locate_grow_file located sets.grows
    rw [show (Destination.found p (Entry.file old)).place = p from rfl, later]
    rw [sets.get?_self] at there
    cases there
    rfl
  · -- Nothing was there, so the file is kept only if the path leads to it now.
    rename_i p located
    obtain ⟨valid, way⟩ := locate_eq_ok_iff.mp located
    obtain ⟨inside, none⟩ := way.none_of_free
    simp only at done
    split at done
    · rename_i q y relocated
      cases done
      refine ⟨_, located, ⟨rfl, inside, .inl none⟩, ?_⟩
      have again := way.eq_of_put_file (locate_eq_ok_iff.mp relocated).2
      rw [relocated, again]
      rfl
    · exact nomatch done

theorem write_error {t t' : FileTree} {s : String} {content : Bytes} {e : FileError}
    (failed : t.write s content = .error e t') : t' = t := by
  unfold write at failed
  split at failed
  · cases failed
    rfl
  · cases failed
    rfl
  · exact nomatch failed
  · simp only at failed
    split at failed
    · exact nomatch failed
    · cases failed
      rfl

theorem makeDirectory_ok {t t' : FileTree} {s : String} (done : t.makeDirectory s = .ok () t') :
    ∃ p, t.locate false s = .ok (.free p) ∧ t.Sets p .directory t' ∧
      t'.locate true s = .ok (.found p .directory) := by
  unfold makeDirectory make at done
  split at done
  · exact nomatch done
  · exact nomatch done
  · rename_i p located
    cases done
    obtain ⟨valid, way⟩ := locate_eq_ok_iff.mp located
    obtain ⟨inside, none⟩ := way.none_of_free
    have now := way.put_directory.followed (by simp)
    exact ⟨p, located, ⟨rfl, inside, .inl none⟩, locate_eq_ok_iff.mpr ⟨valid, now⟩⟩

theorem makeDirectory_error {t t' : FileTree} {s : String} {e : FileError}
    (failed : t.makeDirectory s = .error e t') : t' = t := by
  unfold makeDirectory make at failed
  split at failed <;> cases failed <;> rfl

theorem isDirectory_ok {t : FileTree} {s : String} (yes : t.isDirectory s = .ok true) :
    ∃ p, t.locate true s = .ok (.found p .directory) := by
  unfold isDirectory status? at yes
  split at yes <;> simp_all [Except.map]

end FileTree

/-- Directories are made, one after the other, at a path or above it. -/
inductive MakesAbove (p : Path) : FileTree → FileTree → Prop
  | nothing (t : FileTree) : MakesAbove p t t
  | directory {q : Path} {t t' t'' : FileTree} (above : q.IsAtOrAbove p)
    (made : t.makeDirectory q.text = .ok () t') (rest : MakesAbove p t' t'') : MakesAbove p t t''

namespace MakesAbove

variable {p q : Path} {t t' t'' : FileTree}

theorem trans (one : MakesAbove p t t') (two : MakesAbove p t' t'') : MakesAbove p t t'' := by
  induction one with
  | nothing => exact two
  | directory above made _ ih => exact .directory above made (ih two)

theorem mono (makes : MakesAbove q t t') (above : q.IsAtOrAbove p) : MakesAbove p t t' := by
  induction makes with
  | nothing => exact .nothing _
  | directory here made _ ih => exact .directory (here.trans above) made ih

theorem grows (makes : MakesAbove p t t') : t.Grows t' := by
  induction makes with
  | nothing => exact .refl _
  | directory _ made _ ih =>
    obtain ⟨place, -, sets, -⟩ := FileTree.makeDirectory_ok made
    exact sets.grows.trans ih

/-- Every place stays as it is, or was free and is now a directory that the path or one above it
leads to. -/
theorem frame (makes : MakesAbove p t t') (place : Place) : t'.get? place = t.get? place ∨
    t.get? place = none ∧ t'.get? place = some .directory ∧
      ∃ q : Path, q.IsAtOrAbove p ∧ t'.locate true q.text = .ok (.found place .directory) := by
  induction makes with
  | nothing => exact .inl rfl
  | @directory q t t' t'' above made rest ih =>
    obtain ⟨made, free, sets, leads⟩ := FileTree.makeDirectory_ok made
    by_cases here : place = made
    · subst here
      have none := (FileTree.locate_eq_ok_iff.mp free).2.none_of_free
      exact .inr ⟨none.2, rest.grows.directory sets.get?_self, q, above,
        FileTree.locate_grow_directory leads rest.grows⟩
    · rwa [sets.get?_of_ne here] at ih

end MakesAbove

namespace FileTree

theorem ensureDirectory_spec (t : FileTree) (p : Path) :
    MakesAbove p t (finalState (t.ensureDirectory p)) ∧
      ∀ t', t.ensureDirectory p = .ok () t' →
        ∃ place, t'.locate true p.text = .ok (.found place .directory) := by
  unfold ensureDirectory
  cases made : t.makeDirectory p.text with
  | ok _ t' =>
    obtain ⟨place, -, -, leads⟩ := makeDirectory_ok made
    refine ⟨.directory (.refl p) made (.nothing t'), ?_⟩
    rintro _ ⟨⟩
    exact ⟨place, leads⟩
  | error e t' =>
    obtain rfl := makeDirectory_error made
    split
    · rename_i done
      exact nomatch done
    · rename_i same
      cases same
      exact ⟨.nothing _, fun _ done => nomatch done⟩
    · rename_i same
      cases same
      exact ⟨.nothing _, fun _ done => nomatch done⟩
    · rename_i same
      cases same
      split
      · rename_i yes
        refine ⟨.nothing _, ?_⟩
        rintro _ ⟨⟩
        exact isDirectory_ok yes
      · exact ⟨.nothing _, fun _ done => nomatch done⟩
      · exact ⟨.nothing _, fun _ done => nomatch done⟩

theorem ensureDirectories_spec (t : FileTree) (anchor : Anchor) (parts : List String) :
    MakesAbove ⟨anchor, parts.reverse⟩ t (finalState (t.ensureDirectories anchor parts)) ∧
      ∀ t', t.ensureDirectories anchor parts = .ok () t' →
        ∃ place, t'.locate true (⟨anchor, parts.reverse⟩ : Path).text = .ok (.found place .directory) := by
  induction parts generalizing t with
  | nil => exact t.ensureDirectory_spec ⟨anchor, []⟩
  | cons part above ih =>
    rw [ensureDirectories]
    split
    · rename_i lacking
      obtain rfl := (makeDirectory_error lacking).symm
      have upper : (⟨anchor, above.reverse⟩ : Path).IsAtOrAbove ⟨anchor, (part :: above).reverse⟩ :=
        ⟨rfl, by simp⟩
      obtain ⟨makes, -⟩ := ih t
      cases made : t.ensureDirectories anchor above with
      | ok _ t' =>
        rw [made] at makes
        obtain ⟨last, leads⟩ := t'.ensureDirectory_spec ⟨anchor, (part :: above).reverse⟩
        exact ⟨(makes.mono upper).trans last, leads⟩
      | error e t' =>
        rw [made] at makes
        exact ⟨makes.mono upper, fun _ done => nomatch done⟩
    · exact t.ensureDirectory_spec _

/-- Making a path makes directories at the path or above it, also where it fails; where it does not
fail, the path leads to a directory. -/
theorem ensurePath_spec (t : FileTree) (p : Path) :
    MakesAbove p t (finalState (t.ensurePath p)) ∧
      ∀ t', t.ensurePath p = .ok () t' →
        ∃ place, t'.locate true p.text = .ok (.found place .directory) := by
  have spec := t.ensureDirectories_spec p.anchor p.parts.reverse
  rwa [List.reverse_reverse] at spec

end FileTree

end Files

end PluginBuild
