import PluginBuild.Proofs.Discovery
import PluginBuild.Proofs.Evolution
import PluginBuild.Proofs.Visits

/-!
Visiting scripts while the visits write files. A directory is listed when the walk reaches it, and by
then earlier visits may have put compiled files and directories into it. Still the walk visits what a
search would have found beforehand, in the same order: compiled files do not have the ending that is
asked for, and neither do those in new directories.
-/

namespace PluginBuild

open PluginBuild.Files PluginBuild.Text

section
variable {σ : Type} {action : Path → StateT σ Build Unit} {s : σ} {w : Workspace}

/-- The walk over scripts that are visited as they are found. -/
def scan (search : Search) (action : Path → StateT σ Build Unit) (room : Nat) (directory : String) :
    StateT σ Build Unit :=
  search.walk (fun path => (Build.ask (·.list path) : Build _))
    (fun path => return (← (getThe Workspace : Build _)).files.isLink path)
    (throw Failure.tooNested : Build Unit) action room directory

/-- The walk goes on into a directory unless it is a link. -/
def enter (search : Search) (action : Path → StateT σ Build Unit) (room : Nat)
    (directory name : String) : StateT σ Build Unit := do
  if !(← (return (← (getThe Workspace : Build _)).files.isLink (inside directory name) :
      StateT σ Build Bool)) then scan search action room (inside directory name)

def onward (search : Search) (action : Path → StateT σ Build Unit) (room : Nat) (directory : String)
    (listing : FileTree.Listing) : StateT σ Build Unit :=
  match room with
  | 0 => if (search.entered directory listing).isEmpty then pure () else throw Failure.tooNested
  | room + 1 => (search.entered directory listing).forM (enter search action room directory)

theorem scan_run (search : Search) (room : Nat) (directory : String) :
    (scan search action room directory).run s w = match w.files.list directory with
    | .error e => .error (.file e) w
    | .ok listing => ((search.visited directory listing).forM action >>= fun _ =>
        onward search action room directory listing : StateT σ Build Unit).run s w := by
  cases room with
  | zero =>
    unfold scan Search.walk
    rw [StateT.run_bind, Build.bind_run, Build.lift_run, Build.ask_run]
    cases w.files.list directory with
    | error e => rfl
    | ok listing =>
      dsimp only [onward]
      cases (search.entered directory listing).isEmpty <;> rfl
  | succ room =>
    unfold scan Search.walk
    rw [StateT.run_bind, Build.bind_run, Build.lift_run, Build.ask_run]
    cases w.files.list directory <;> rfl

theorem scan_refused {directory : String} {e : FileError} (refused : w.files.list directory = .error e)
    (search : Search) (room : Nat) :
    (scan search action room directory).run s w = .error (.file e) w := by
  rw [scan_run, refused]

theorem enter_run (search : Search) (directory name : String) (room : Nat) :
    (enter search action room directory name).run s w =
      if w.files.isLink (inside directory name) then .ok ((), s) w
      else (scan search action room (inside directory name)).run s w := by
  have asked : (getThe Workspace : Build Workspace) w = .ok w w := rfl
  unfold enter
  rw [StateT.run_bind, Build.bind_run, StateT.run_bind, Build.bind_run, Build.lift_run, asked]
  dsimp only
  generalize w.files.isLink (inside directory name) = link
  cases link <;> rfl

theorem enter_plain_run {search : Search} {directory name : String} {room : Nat}
    (plain : w.files.isLink (inside directory name) = false) :
    (enter search action room directory name).run s w =
      (scan search action room (inside directory name)).run s w := by
  rw [enter_run, plain]
  rfl

theorem Search.visit_run (search : Search) : (search.visit action).run s w =
    (scan search action w.files.platform.room search.root.text).run s w := rfl

theorem scan_onlyVisits (search : Search) (action : Path → StateT σ Build Unit) (room : Nat)
    (directory : String) : OnlyVisits action (scan search action room directory)
      (scan search (noting action) room directory) := by
  induction room generalizing directory with
  | zero =>
    intro seen s w s' w' done
    rw [scan_run] at done ⊢
    split at done
    · exact nomatch done
    · rename_i listing listed
      have files := OnlyVisits.forM (search.visited directory listing) (OnlyVisits.one action)
      refine files.andThen (.ite .nothing fun seen s w s' w' never => ?_) _ _ _ _ _ done
      exact nomatch never
  | succ room ih =>
    intro seen s w s' w' done
    rw [scan_run] at done ⊢
    split at done
    · exact nomatch done
    · rename_i listing listed
      have files := OnlyVisits.forM (search.visited directory listing) (OnlyVisits.one action)
      refine files.andThen (.forM (search.entered directory listing) fun name => ?_) _ _ _ _ _ done
      intro seen s w s' w' done
      rw [enter_run] at done ⊢
      split at done
      · rename_i link
        cases done
        exact ⟨[], rfl, by rw [if_pos link, List.append_nil]⟩
      · rename_i plain
        rw [if_neg plain]
        exact ih _ seen s w s' w' done

theorem Search.visit_onlyVisits (search : Search) (action : Path → StateT σ Build Unit) :
    OnlyVisits action (search.visit action) (search.visit (noting action)) :=
  fun seen s w s' w' done => scan_onlyVisits search action w.files.platform.room search.root.text
    seen s w s' w' done

/-- A sound tree without links that comes from another by compilations. -/
structure IsEvolved (root : Place) (t t' : FileTree) : Prop where
  evolves : Evolves root t t'
  sound : t'.IsSound
  unlinked : t'.IsUnlinked

theorem IsEvolved.trans {root : Place} {t t' t'' : FileTree} (one : IsEvolved root t t')
    (two : IsEvolved root t' t'') : IsEvolved root t t'' :=
  ⟨one.evolves.trans two.evolves, two.sound, two.unlinked⟩

/-- Visits do to the files what compilations do. -/
def Evolving (root : Place) (start : FileTree) (action : Path → StateT σ Build Unit) : Prop :=
  ∀ source s w s' w', IsEvolved root start w.files →
    (action source).run s w = .ok ((), s') w' → IsEvolved root w.files w'.files

theorem forM_evolved {root : Place} {start : FileTree} (evolving : Evolving root start action)
    {sources : List Path} {s' : σ} {w' : Workspace} (before : IsEvolved root start w.files)
    (ran : (sources.forM action).run s w = .ok ((), s') w') : IsEvolved root w.files w'.files :=
  forM_keeps (IsEvolved root) (fun known => ⟨.refl root _, known.sound, known.unlinked⟩) .trans evolving
    before ran

namespace Covers

theorem evolved {root : Place} {start : FileTree} (evolving : Evolving root start action)
    {expected : Except Failure (List Path)} {s' : σ} {w' : Workspace}
    (before : IsEvolved root start w.files) (covers : Covers action expected s w (.ok ((), s') w')) :
    IsEvolved root w.files w'.files := by
  cases covers with
  | all _ ran => exact forM_evolved evolving before ran

end Covers

section
variable {root : Place} {start : FileTree} {suffix : String}

def sourcesOfAll (sources : String → Except Failure (List Path)) (names : List String) :
    Except Failure (List Path) :=
  (names.mapM sources).map List.flatten

theorem sourcesOfAll_cons (sources : String → Except Failure (List Path)) (name : String)
    (rest : List String) : sourcesOfAll sources (name :: rest) =
      bothLists (sources name) (sourcesOfAll sources rest) := by
  unfold sourcesOfAll bothLists
  rw [List.mapM_cons]
  cases sources name with
  | error e => rfl
  | ok found => cases rest.mapM sources <;> rfl

/-- What is found in the directories inside one. -/
def Search.deeper (search : Search) (files : FileTree) (room : Nat) (directory : String)
    (names : List String) : Except Failure (List Path) :=
  match room with
  | 0 => if names.isEmpty then .ok [] else .error .tooNested
  | room + 1 => sourcesOfAll (fun name => search.below files room (inside directory name)) names

theorem Search.below_eq {search : Search} {files : FileTree} {directory : String}
    {listing : FileTree.Listing} (listed : files.list directory = .ok listing)
    (plain : ∀ s, files.isLink s = false) (room : Nat) : search.below files room directory =
      bothLists (.ok (search.visited directory listing))
        (search.deeper files room directory (search.entered directory listing)) := by
  cases room with
  | zero =>
    rw [Search.below_zero_of_list listed]
    unfold Search.deeper
    dsimp only
    cases (search.entered directory listing).isEmpty with
    | true =>
      show Except.ok _ = Except.ok (_ ++ [])
      rw [List.append_nil]
    | false => rfl
  | succ room =>
    have all : (search.entered directory listing).filter (fun name => !files.isLink (inside directory name)) =
        search.entered directory listing := List.filter_eq_self.mpr fun name _ => by simp [plain]
    rw [Search.below_succ_of_list listed, all, Search.deeper, sourcesOfAll]
    cases (search.entered directory listing).mapM fun name => search.below files room (inside directory name)
      <;> rfl

theorem Covers.entered {x : String → StateT σ Build Unit} {old : String → Bool}
    {sources : String → Except Failure (List Path)} (evolving : Evolving root start action)
    {names : List String} (before : IsEvolved root start w.files)
    (each : ∀ name ∈ names, ∀ s w', IsEvolved root start w'.files → w.files.Grows w'.files →
      Covers action (if old name then sources name else .ok []) s w' ((x name).run s w')) :
    Covers action (sourcesOfAll sources (names.filter old)) s w ((names.forM x).run s w) := by
  induction names generalizing s w with
  | nil => exact .nothing s w
  | cons name rest ih =>
    have here := each name List.mem_cons_self s w before (.refl _)
    have both : sourcesOfAll sources ((name :: rest).filter old) =
        bothLists (if old name then sources name else .ok []) (sourcesOfAll sources (rest.filter old)) := by
      cases kept : old name with
      | true => rw [List.filter_cons_of_pos kept, sourcesOfAll_cons, if_pos rfl]
      | false =>
        rw [List.filter_cons_of_neg (by simp [kept]), if_neg (by simp)]
        cases sourcesOfAll sources (rest.filter old) <;> rfl
    rw [both]
    refine here.andThen fun s₁ w₁ done => ?_
    rw [done] at here
    have after := here.evolved evolving before
    refine ih (before.trans after) fun name member s w' evolved grows => ?_
    exact each name (List.mem_cons_of_mem _ member) s w' evolved (after.evolves.grows.trans grows)

theorem Search.visited_congr {search : Search} {directory : String} {one two : FileTree.Listing}
    (same : one.others.filter (endsWith · search.suffix) = two.others.filter (endsWith · search.suffix)) :
    search.visited directory one = search.visited directory two := by
  rw [Search.visited, Search.visited, same]

theorem Search.entered_filter {search : Search} (directory : String) {one two : FileTree.Listing}
    {kept : String → Bool} (same : one.directories.filter kept = two.directories) :
    (search.entered directory one).filter kept = search.entered directory two := by
  unfold Search.entered
  split
  · rfl
  · exact same

theorem Search.mem_entered {search : Search} {directory name : String} {listing : FileTree.Listing}
    (member : name ∈ search.entered directory listing) : name ∈ listing.directories := by
  unfold Search.entered at member
  split at member
  · cases member
  · exact member

/-- What comes behind the visits in a directory, where those that are new there add nothing. -/
theorem Covers.onward {search : Search} (evolving : Evolving root start action)
    (before : IsEvolved root start w.files) {room : Nat} {directory : String}
    {listing listing' : FileTree.Listing} (old : String → Bool) {files : FileTree}
    (kept : listing.directories.filter old = listing'.directories)
    (each : ∀ deeper, room = deeper + 1 → ∀ name ∈ listing.directories, ∀ s w',
      IsEvolved root start w'.files → w.files.Grows w'.files →
      Covers action (if old name then search.below files deeper (inside directory name) else .ok []) s w'
        ((enter search action deeper directory name).run s w')) :
    Covers action (search.deeper files room directory (search.entered directory listing')) s w
      ((onward search action room directory listing).run s w) := by
  have entered := search.entered_filter directory kept
  cases room with
  | zero =>
    unfold PluginBuild.onward
    cases empty : (search.entered directory listing).isEmpty with
    | true =>
      rw [← entered, List.isEmpty_iff.mp empty]
      exact .nothing s w
    | false => exact .refused _ s w
  | succ deeper =>
    rw [← entered]
    exact .entered evolving before fun name member => each deeper rfl name (Search.mem_entered member)

theorem scan_new {search : Search} (sound : start.IsSound)
    (other : ∀ name, endsWith name search.suffix = true → endsWith name compiledEnding = false)
    (evolving : Evolving root start action) (evolved : IsEvolved root start w.files) {room : Nat}
    {directory : String} {p : Place} (nonempty : directory ≠ "")
    (reaches : w.files.Reaches directory p) (new : start.get? p = none) :
    Covers action (.ok []) s w ((scan search action room directory).run s w) := by
  induction room using Nat.strongRecOn generalizing directory p s w with
  | ind room ih =>
    by_cases usable : IsPathText directory
    · have fresh : ∀ name, start.get? (p ++ [name]) = none := fun name =>
        sound.get?_below_free new name
      -- What was made since ends otherwise than scripts do.
      have none : search.visited directory ⟨w.files.subdirectories p, w.files.leaves p⟩ = [] := by
        have nothing : (w.files.leaves p).filter (endsWith · search.suffix) = [] := by
          refine List.filter_eq_nil_iff.mpr fun name member asked => ?_
          obtain ⟨content, there⟩ := (FileTree.mem_leaves evolved.unlinked).mp member
          have old := evolved.evolves.get?_of_other_ending (other name asked) there
          simp [fresh] at old
        simp [Search.visited, nothing]
      have onward : Covers action
          (search.deeper start room directory (search.entered directory ⟨[], []⟩)) s w
          ((onward search action room directory ⟨w.files.subdirectories p, w.files.leaves p⟩).run s w) := by
        refine Covers.onward evolving evolved (fun _ => false) (List.filter_false _)
          fun deeper less name member s w' evolved' grows => ?_
        have below := grows.directory (FileTree.mem_subdirectories.mp member)
        rw [enter_plain_run (FileTree.isLink_eq_false evolved'.sound evolved'.unlinked _)]
        exact ih deeper (by omega) evolved' (inside_ne_empty nonempty)
          ((reaches.grow grows).inside nonempty evolved'.sound below) (fresh name)
      have empty : search.deeper start room directory (search.entered directory ⟨[], []⟩) = .ok [] := by
        have : search.entered directory ⟨[], []⟩ = [] := by simp [Search.entered]
        rw [this]
        cases room <;> rfl
      rw [empty] at onward
      rw [scan_run, reaches.list evolved.unlinked usable]
      dsimp only
      rw [none]
      show Covers action (bothLists (.ok []) (.ok [])) s w _
      refine Covers.andThen (.nothing s w) ?_
      rintro _ _ ⟨⟩
      exact onward
    · obtain ⟨e, refused⟩ := FileTree.list_error (t := w.files) usable
      rw [scan_refused refused]
      exact .refused _ s w

/-- A directory that was there at first is walked through as if nothing had changed since. -/
theorem scan_old {search : Search} (sound : start.IsSound) (unlinked : start.IsUnlinked)
    (other : ∀ name, endsWith name search.suffix = true → endsWith name compiledEnding = false)
    (evolving : Evolving root start action) (before : IsEvolved root start w.files) {room : Nat}
    {directory : String} {p : Place} (nonempty : directory ≠ "")
    (reaches : start.Reaches directory p) :
    Covers action (search.below start room directory) s w
      ((scan search action room directory).run s w) := by
  have grows := before.evolves.grows
  induction room using Nat.strongRecOn generalizing directory p s w with
  | ind room ih =>
    by_cases usable : IsPathText directory
    · have reaches' := reaches.grow grows
      have files : search.visited directory ⟨w.files.subdirectories p, w.files.leaves p⟩ =
          search.visited directory ⟨start.subdirectories p, start.leaves p⟩ := by
        refine Search.visited_congr ?_
        refine FileTree.leaves_filter sound unlinked before.sound before.unlinked grows ?_
        intro name content asked there
        exact ⟨content, before.evolves.get?_of_other_ending (other name asked) there⟩
      rw [scan_run, reaches'.list before.unlinked usable, Search.below_eq (reaches.list unlinked usable)
          (FileTree.isLink_eq_false sound unlinked)]
      dsimp only
      rw [files]
      have covers : Covers action _ s w _ :=
        Covers.forM (search.visited directory ⟨start.subdirectories p, start.leaves p⟩) s w
      refine covers.andThen fun s₁ w₁ done => ?_
      rw [done] at covers
      have here := covers.evolved evolving before
      refine Covers.onward evolving (before.trans here) _
        (FileTree.subdirectories_filter sound before.sound grows p)
        fun deeper less name member s w' evolved later => ?_
      have grown := here.evolves.grows.trans later
      have there := grown.directory (FileTree.mem_subdirectories.mp member)
      rw [enter_plain_run (FileTree.isLink_eq_false evolved.sound evolved.unlinked _)]
      -- A directory that was made since holds no script; one that was there is entered by induction.
      cases old : (start.get? (p ++ [name])).isSome with
      | false =>
        exact scan_new sound other evolving evolved (inside_ne_empty nonempty)
          ((reaches'.grow grown).inside nonempty evolved.sound there)
          (by simpa using old)
      | true =>
        obtain ⟨x, was⟩ := Option.isSome_iff_exists.mp old
        rw [evolved.evolves.grows.eq_directory was there] at was
        exact ih deeper (by omega) evolved (inside_ne_empty nonempty) (reaches.inside nonempty sound was)
          evolved.evolves.grows
    · obtain ⟨e, refused⟩ := FileTree.list_error (t := w.files) usable
      rw [scan_refused refused]
      exact .refused _ s w

/-- Visiting what a search comes to: what it would have found beforehand is visited in that order. -/
theorem Search.visit_covers {search : Search} (sound : start.IsSound) (unlinked : start.IsUnlinked)
    (other : ∀ name, endsWith name search.suffix = true → endsWith name compiledEnding = false)
    (evolving : Evolving root start action) (normal : search.root.IsNormal)
    (same : w.files = start) :
    Covers action (search.find start) s w ((search.visit action).run s w) := by
  subst same
  rw [Search.find_eq, Search.visit_run]
  cases listed : w.files.list search.root.text with
  | error e =>
    rw [scan_refused listed]
    exact .refused _ s w
  | ok listing =>
    obtain ⟨p, located⟩ := FileTree.list_ok listed
    exact scan_old sound unlinked other evolving ⟨.refl root _, sound, unlinked⟩
      (Path.text_ne_empty normal) (.of_locate located)

end

end

end PluginBuild
