import PluginBuild.Discovery
import PluginBuild.Proofs.Files.Listing

/-!
Searching scripts in a tree that stays as it is. What is found is a list that the tree gives, and
each script in it is a file whose name ends as asked for.
-/

namespace PluginBuild

open PluginBuild.Files PluginBuild.Text

section
variable {directory name : String}

theorem split_inside (directory : String) (valid : '/' ∉ name.toList) :
    ∃ front, split '/' (inside directory name) = front ++ [name] ∧
      front.filter Path.isPart = (split '/' directory).filter Path.isPart := by
  have alone : split '/' name = [name] := split_of_absent valid
  unfold inside
  split
  · rename_i slash
    obtain ⟨front, same⟩ := List.isSuffixOf_iff_suffix.mp slash
    have directory_eq : directory = String.ofList front ++ "/" := by
      apply String.toList_inj.mp
      simp [← same]
    have whole := split_append Path.slash_single (String.ofList front) name
    have bare := split_append Path.slash_single (String.ofList front) ""
    rw [String.append_empty] at bare
    refine ⟨split '/' (String.ofList front), ?_, ?_⟩
    · rw [directory_eq, whole, alone]
    · rw [directory_eq, bare, List.filter_append]
      have none : (split '/' "").filter Path.isPart = [] := by decide
      simp [none]
  · refine ⟨split '/' directory, ?_, rfl⟩
    rw [split_append Path.slash_single, alone]

theorem route_inside (valid : IsFileName name) : Route.ofString (inside directory name) =
    ⟨(Route.ofString directory).names ++ [name], false⟩ := by
  obtain ⟨front, cut, same⟩ := split_inside directory valid.noSeparator
  have names : (Route.ofString (inside directory name)).names =
      (Route.ofString directory).names ++ [name] := by
    rw [Path.names_eq_parts, Path.names_eq_parts]
    show (split '/' (inside directory name)).filter Path.isPart =
      (split '/' directory).filter Path.isPart ++ [name]
    have kept : [name].filter Path.isPart = [name] :=
      Path.filter_isPart (by simpa using Path.isNormalPart_of_isFileName valid)
    rw [cut, List.filter_append, same, kept]
  have ends : (Route.ofString (inside directory name)).endsInDirectory = false := by
    simp [Route.ofString, cut, valid.nonempty, valid.notHere]
  rw [← names, ← ends]

theorem inside_ne_empty (nonempty : directory ≠ "") : inside directory name ≠ "" := by
  have chars : directory.toList ≠ [] := mt String.toList_eq_nil_iff.mp nonempty
  intro same
  have none := congrArg String.toList same
  unfold inside at none
  split at none <;> simp [chars] at none

theorem startsWith_inside (nonempty : directory ≠ "") :
    startsWith (inside directory name) "/" = startsWith directory "/" := by
  cases chars : directory.toList with
  | nil => exact absurd (String.toList_eq_nil_iff.mp chars) nonempty
  | cons c rest =>
    unfold inside startsWith
    split <;> simp [chars, List.isPrefixOf]

end

namespace Files.FileTree

/-- Whether the way that a text writes leads to a directory, however long the text is. -/
def Reaches (t : FileTree) (s : String) (p : Place) : Prop :=
  Way t true maxLinks (t.origin s) (Route.ofString s).names (Route.ofString s).endsInDirectory
    (.found p .directory)

namespace Reaches

variable {t t' : FileTree} {s : String} {p : Place}

theorem of_locate (found : t.locate true s = .ok (.found p .directory)) : t.Reaches s p :=
  (locate_eq_ok_iff.mp found).2

theorem locate (reaches : t.Reaches s p) (usable : IsPathText s) :
    t.locate true s = .ok (.found p .directory) :=
  locate_eq_ok_iff.mpr ⟨usable, reaches⟩

theorem grow (reaches : t.Reaches s p) (grows : t.Grows t') : t'.Reaches s p := by
  have later := reaches.grow_directory grows
  rwa [origin, ← grows.current] at later

theorem way_inside (reaches : t.Reaches s p) (nonempty : s ≠ "") {name : String} (valid : IsFileName name)
    {follow : Bool} {d : Destination} (last : ∀ links, t.follow follow links p [name] false = .ok d) :
    Way t follow maxLinks (t.origin (PluginBuild.inside s name))
      (Route.ofString (PluginBuild.inside s name)).names
      (Route.ofString (PluginBuild.inside s name)).endsInDirectory d := by
  have whole := way_of_follow (follow_append_of_same (List.cons_ne_nil _ _) reaches last)
  rwa [route_inside valid, origin, startsWith_inside nonempty]

theorem inside (reaches : t.Reaches s p) (nonempty : s ≠ "") (sound : t.IsSound) {name : String}
    (there : t.get? (p ++ [name]) = some .directory) :
    t.Reaches (PluginBuild.inside s name) (p ++ [name]) := by
  have valid := sound.named there
  exact reaches.way_inside nonempty valid.valid fun links =>
    follow_of_way (.directory valid.isLookedUp there .here)

theorem list (reaches : t.Reaches s p) (unlinked : t.IsUnlinked) (usable : IsPathText s) :
    t.list s = .ok ⟨t.subdirectories p, t.leaves p⟩ :=
  list_of_locate unlinked (reaches.locate usable)

end Reaches

theorem list_error {t : FileTree} {s : String} (unusable : ¬ IsPathText s) :
    ∃ e, t.list s = .error e := by
  cases done : t.list s with
  | error e => exact ⟨e, rfl⟩
  | ok listing =>
    obtain ⟨p, found⟩ := list_ok done
    exact absurd (locate_eq_ok_iff.mp found).1 unusable

theorem isLink_eq_false {t : FileTree} (sound : t.IsSound) (unlinked : t.IsUnlinked) (s : String) :
    t.isLink s = false := by
  unfold isLink
  split
  · rename_i place target found
    exact absurd (locate_entry sound found) (unlinked.get?_ne _ _)
  · rfl

end Files.FileTree

/-- The scripts below a directory of a tree: those in it, and those of each directory in it. -/
def Search.below (s : Search) (files : FileTree) : (room : Nat) → (directory : String) →
    Except Failure (List Path)
  | 0, directory => do
    let listing ← (files.list directory).mapError .file
    if (s.entered directory listing).isEmpty then return s.visited directory listing
    throw .tooNested
  | room + 1, directory => do
    let listing ← (files.list directory).mapError .file
    let next := (s.entered directory listing).filter fun name => !files.isLink (inside directory name)
    let deeper ← next.mapM fun name => s.below files room (inside directory name)
    return s.visited directory listing ++ deeper.flatten

abbrev Found : Type → Type := StateT (List Path) (Except Failure)

theorem forM_push (paths before : List Path) :
    ((paths.forM fun path => modify (· ++ [path]) : Found Unit).run before) =
      .ok ((), before ++ paths) := by
  induction paths generalizing before with
  | nil =>
    rw [List.append_nil]
    rfl
  | cons path rest ih =>
    show (rest.forM fun path => modify (· ++ [path]) : Found Unit).run (before ++ [path]) = _
    rw [ih, List.append_assoc, List.singleton_append]

theorem forM_search {search : String → Found Unit} (isLink : String → Bool)
    {below : String → Except Failure (List Path)} (directory : String)
    (each : ∀ next before, (search next).run before =
      (below next).map fun sources => ((), before ++ sources))
    (names : List String) (before : List Path) :
    ((names.forM fun name => do
        let next := inside directory name
        if !(← pure (isLink next)) then search next : Found Unit).run before) =
      ((names.filter fun name => !isLink (inside directory name)).mapM fun name =>
        below (inside directory name)).map fun deeper => ((), before ++ deeper.flatten) := by
  induction names generalizing before with
  | nil =>
    simp only [List.filter_nil, List.mapM_nil]
    show Except.ok ((), before) = Except.ok ((), before ++ [])
    rw [List.append_nil]
  | cons name rest ih =>
    simp only [List.forM_eq_forM, pure_bind] at ih ⊢
    rw [List.forM_cons, StateT.run_bind]
    cases link : isLink (inside directory name) with
    | true =>
      rw [List.filter_cons_of_neg (by simp [link]), ← ih]
      rfl
    | false =>
      rw [List.filter_cons_of_pos (by simp [link]), List.mapM_cons]
      simp only [Bool.not_false, if_true, each]
      cases below (inside directory name) with
      | error e => rfl
      | ok sources =>
        show (forM rest _ : Found Unit).run (before ++ sources) = _
        rw [ih]
        cases List.mapM (fun name => below (inside directory name))
            (rest.filter fun name => !isLink (inside directory name)) with
        | error e => rfl
        | ok deeper =>
          show Except.ok ((), before ++ sources ++ deeper.flatten) =
            Except.ok ((), before ++ (sources ++ deeper.flatten))
          rw [List.append_assoc]

namespace Search

theorem walk_find (s : Search) (files : FileTree) (room : Nat) (directory : String) (before : List Path) :
    (s.walk (fun path => ((files.list path).mapError .file : Except Failure _))
      (fun path => pure (files.isLink path)) (throw Failure.tooNested : Except Failure Unit)
      (fun path => modify (· ++ [path])) room directory : Found Unit).run before =
      (s.below files room directory).map fun sources => ((), before ++ sources) := by
  induction room generalizing directory before with
  | zero =>
    unfold walk below
    cases files.list directory with
    | error e => rfl
    | ok listing =>
      show (((s.visited directory listing).forM _ >>= fun _ => _ : Found Unit).run before) = _
      rw [StateT.run_bind, forM_push]
      show (if !(s.entered directory listing).isEmpty then _ else _ : Found Unit).run _ =
        (if (s.entered directory listing).isEmpty then _ else _ : Except Failure (List Path)).map _
      cases (s.entered directory listing).isEmpty <;> rfl
  | succ room ih =>
    unfold walk below
    cases files.list directory with
    | error e => rfl
    | ok listing =>
      show (((s.visited directory listing).forM _ >>= fun _ => _ : Found Unit).run before) = _
      rw [StateT.run_bind, forM_push]
      refine (forM_search files.isLink directory ih (s.entered directory listing)
        (before ++ s.visited directory listing)).trans ?_
      show _ = (List.mapM (fun name => s.below files room (inside directory name)) _ >>= fun deeper =>
        pure (s.visited directory listing ++ deeper.flatten)).map _
      cases List.mapM (fun name => s.below files room (inside directory name))
          ((s.entered directory listing).filter fun name => !files.isLink (inside directory name)) with
      | error e => rfl
      | ok deeper =>
        show Except.ok ((), before ++ s.visited directory listing ++ deeper.flatten) =
          Except.ok ((), before ++ (s.visited directory listing ++ deeper.flatten))
        rw [List.append_assoc]

theorem below_refused {s : Search} {files : FileTree} {directory : String} {e : FileError}
    (refused : files.list directory = .error e) (room : Nat) :
    s.below files room directory = .error (.file e) := by
  cases room <;> rw [below, refused] <;> rfl

theorem below_zero_of_list {s : Search} {files : FileTree} {directory : String} {listing : FileTree.Listing}
    (listed : files.list directory = .ok listing) : s.below files 0 directory =
      if (s.entered directory listing).isEmpty then .ok (s.visited directory listing)
      else .error .tooNested := by
  rw [below, listed]
  rfl

theorem below_succ_of_list {s : Search} {files : FileTree} {directory : String} {listing : FileTree.Listing}
    (listed : files.list directory = .ok listing) (room : Nat) : s.below files (room + 1) directory =
      (((s.entered directory listing).filter fun name => !files.isLink (inside directory name)).mapM
        fun name => s.below files room (inside directory name)).map fun deeper =>
          s.visited directory listing ++ deeper.flatten := by
  rw [below, listed]
  exact (map_eq_pure_bind (m := Except Failure) _ _).symm

theorem of_mem_visited {s : Search} {directory : String} {listing : FileTree.Listing} {path : Path}
    (member : path ∈ s.visited directory listing) : ∃ name ∈ listing.others,
      endsWith name s.suffix = true ∧ path = (Path.ofString directory).child name := by
  unfold visited at member
  split at member
  · obtain ⟨name, kept, rfl⟩ := List.mem_map.mp member
    obtain ⟨listed, asked⟩ := List.mem_filter.mp kept
    exact ⟨name, listed, asked, rfl⟩
  · cases member

theorem find_eq (s : Search) (files : FileTree) :
    s.find files = s.below files files.platform.room s.root.text := by
  unfold Search.find
  dsimp only
  rw [walk_find]
  cases s.below files files.platform.room s.root.text <;> rfl

end Search

end PluginBuild
