import PluginBuild.Proofs.Walk

/-!
Visiting scripts below a place that the visits leave alone. Every directory is listed as it was at
first, so the walk visits what was found there, script by script, with any ending.
-/

namespace PluginBuild

open PluginBuild.Files PluginBuild.Text

/-- A sound tree without links that has grown from another one, and not at or below a place. -/
structure IsUntouched (top : Place) (t t' : FileTree) : Prop where
  grows : t.Grows t'
  sound : t'.IsSound
  unlinked : t'.IsUnlinked
  same : ∀ q, top <+: q → t'.get? q = t.get? q

namespace IsUntouched

variable {top p : Place} {t t' t'' : FileTree}

theorem refl (top : Place) (sound : t.IsSound) (unlinked : t.IsUnlinked) : IsUntouched top t t :=
  ⟨.refl t, sound, unlinked, fun _ _ => rfl⟩

theorem trans (one : IsUntouched top t t') (two : IsUntouched top t' t'') : IsUntouched top t t'' :=
  ⟨one.grows.trans two.grows, two.sound, two.unlinked, fun q below =>
    (two.same q below).trans (one.same q below)⟩

theorem subdirectories (untouched : IsUntouched top t t') (sound : t.IsSound) (below : top <+: p) :
    t'.subdirectories p = t.subdirectories p := by
  rw [← FileTree.subdirectories_filter sound untouched.sound untouched.grows p]
  refine (List.filter_eq_self.mpr fun name member => ?_).symm
  have there := FileTree.mem_subdirectories.mp member
  rw [untouched.same _ (below.trans (List.prefix_append _ _))] at there
  rw [there]
  rfl

theorem leaves (untouched : IsUntouched top t t') (sound : t.IsSound) (unlinked : t.IsUnlinked)
    (below : top <+: p) (wanted : String → Bool) :
    (t'.leaves p).filter wanted = (t.leaves p).filter wanted := by
  refine FileTree.leaves_filter sound unlinked untouched.sound untouched.unlinked untouched.grows ?_
  intro name content _ there
  rw [untouched.same _ (below.trans (List.prefix_append _ _))] at there
  exact ⟨content, there⟩

end IsUntouched

section
variable {σ : Type} {action : Path → StateT σ Build Unit} {s : σ} {w : Workspace} {top : Place}
  {start : FileTree}

/-- A task that visits some scripts one after the other, and ends as these visits end; where the scripts
are not known, it fails. -/
def Retraces (action : Path → StateT σ Build Unit) (expected : Except Failure (List Path)) (s : σ)
    (w : Workspace) (ended : EStateM.Result Failure Workspace (Unit × σ)) : Prop :=
  match expected with
  | .ok sources => ended = (sources.forM action).run s w
  | .error _ => ∃ e w', ended = .error e w'

namespace Retraces

theorem nothing (s : σ) (w : Workspace) : Retraces action (.ok []) s w (.ok ((), s) w) := rfl

theorem refused (e e' : Failure) (w' : Workspace) :
    Retraces action (.error e) s w (.error e' w') := ⟨e', w', rfl⟩

theorem andThen {first second : Except Failure (List Path)} {x y : StateT σ Build Unit}
    (one : Retraces action first s w (x.run s w))
    (two : ∀ s₁ w₁, x.run s w = .ok ((), s₁) w₁ → Retraces action second s₁ w₁ (y.run s₁ w₁)) :
    Retraces action (bothLists first second) s w ((x >>= fun _ => y).run s w) := by
  rw [StateT.run_bind, Build.bind_run]
  cases first with
  | error e =>
    obtain ⟨e', w', failed⟩ := one
    rw [failed]
    exact refused e e' w'
  | ok sources =>
    cases second with
    | error e =>
      cases ended : x.run s w with
      | error e' w' => exact refused e e' w'
      | ok result w₁ =>
        obtain ⟨⟨⟩, s₁⟩ := result
        exact two s₁ w₁ ended
    | ok more =>
      have whole : Retraces action (bothLists (.ok sources) (.ok more)) s w =
          fun ended => ended = ((sources ++ more).forM action).run s w := rfl
      rw [whole, List.forM_eq_forM, List.forM_append, StateT.run_bind, Build.bind_run,
        ← List.forM_eq_forM, ← show x.run s w = _ from one]
      cases ended : x.run s w with
      | error e' w' => rfl
      | ok result w₁ =>
        obtain ⟨⟨⟩, s₁⟩ := result
        exact two s₁ w₁ ended

theorem forM (paths : List Path) (s : σ) (w : Workspace) :
    Retraces action (.ok paths) s w ((paths.forM action).run s w) := rfl

theorem ok {expected : Except Failure (List Path)} {s' : σ} {w' : Workspace}
    (retraces : Retraces action expected s w (.ok ((), s') w')) :
    ∃ sources, expected = .ok sources ∧ (sources.forM action).run s w = .ok ((), s') w' := by
  cases expected with
  | error e =>
    obtain ⟨e', w₁, failed⟩ := retraces
    exact nomatch failed
  | ok sources => exact ⟨sources, rfl, retraces.symm⟩

end Retraces

/-- Visits leave alone what is at or below a place. -/
def Untouching (top : Place) (start : FileTree) (action : Path → StateT σ Build Unit) : Prop :=
  ∀ source s w s' w', IsUntouched top start w.files →
    (action source).run s w = .ok ((), s') w' → IsUntouched top w.files w'.files

theorem forM_untouched (untouching : Untouching top start action) {sources : List Path} {s' : σ}
    {w' : Workspace} (before : IsUntouched top start w.files)
    (ran : (sources.forM action).run s w = .ok ((), s') w') : IsUntouched top w.files w'.files :=
  forM_keeps (IsUntouched top) (fun known => .refl top known.sound known.unlinked) .trans untouching before
    ran

theorem Retraces.untouched (untouching : Untouching top start action)
    {expected : Except Failure (List Path)} {s' : σ} {w' : Workspace}
    (before : IsUntouched top start w.files)
    (retraces : Retraces action expected s w (.ok ((), s') w')) :
    IsUntouched top w.files w'.files := by
  obtain ⟨sources, -, ran⟩ := retraces.ok
  exact forM_untouched untouching before ran

theorem Retraces.entered {x : String → StateT σ Build Unit}
    {sources : String → Except Failure (List Path)} (untouching : Untouching top start action)
    {names : List String} (before : IsUntouched top start w.files)
    (each : ∀ name ∈ names, ∀ s w', IsUntouched top start w'.files →
      Retraces action (sources name) s w' ((x name).run s w')) :
    Retraces action (sourcesOfAll sources names) s w ((names.forM x).run s w) := by
  induction names generalizing s w with
  | nil => exact .nothing s w
  | cons name rest ih =>
    have here := each name List.mem_cons_self s w before
    rw [sourcesOfAll_cons]
    refine here.andThen fun s₁ w₁ done => ?_
    rw [done] at here
    refine ih (before.trans (here.untouched untouching before)) fun other member => ?_
    exact each other (List.mem_cons_of_mem _ member)

/-- A walk through directories that stay as they are visits what is found in them at first. -/
theorem scan_retraces {search : Search} (sound : start.IsSound) (unlinked : start.IsUnlinked)
    (untouching : Untouching top start action) (before : IsUntouched top start w.files) {room : Nat}
    {directory : String} {p : Place} (nonempty : directory ≠ "") (reaches : start.Reaches directory p)
    (below : top <+: p) :
    Retraces action (search.below start room directory) s w
      ((scan search action room directory).run s w) := by
  induction room using Nat.strongRecOn generalizing directory p s w with
  | ind room ih =>
    by_cases usable : IsPathText directory
    · have files : search.visited directory ⟨w.files.subdirectories p, w.files.leaves p⟩ =
          search.visited directory ⟨start.subdirectories p, start.leaves p⟩ :=
        Search.visited_congr (before.leaves sound unlinked below _)
      rw [scan_run, (reaches.grow before.grows).list before.unlinked usable,
        Search.below_eq (reaches.list unlinked usable) (FileTree.isLink_eq_false sound unlinked)]
      dsimp only
      rw [files, before.subdirectories sound below]
      refine Retraces.andThen (.forM _ s w) fun s₁ w₁ done => ?_
      have here := before.trans (forM_untouched untouching before done)
      have same : search.entered directory ⟨start.subdirectories p, w.files.leaves p⟩ =
          search.entered directory ⟨start.subdirectories p, start.leaves p⟩ := rfl
      cases room with
      | zero =>
        unfold onward Search.deeper
        dsimp only
        rw [same]
        cases (search.entered directory ⟨start.subdirectories p, start.leaves p⟩).isEmpty with
        | true => exact .nothing s₁ w₁
        | false => exact .refused _ _ w₁
      | succ room =>
        refine Retraces.entered untouching here fun name member s w' later => ?_
        have there := FileTree.mem_subdirectories.mp (Search.mem_entered member)
        rw [enter_plain_run (FileTree.isLink_eq_false later.sound later.unlinked _)]
        exact ih room (Nat.lt_succ_self room) later (inside_ne_empty nonempty)
          (reaches.inside nonempty sound there) (below.trans (List.prefix_append _ _))
    · obtain ⟨e, refused⟩ := FileTree.list_error (t := w.files) usable
      obtain ⟨e', refused'⟩ := FileTree.list_error (t := start) usable
      rw [scan_refused refused, Search.below_refused refused']
      exact .refused _ _ w

theorem Search.reaches_of_visit {search : Search} {s' : σ} {w' : Workspace}
    (unlinked : w.files.IsUnlinked) (normal : search.root.IsNormal)
    (done : (search.visit action).run s w = .ok ((), s') w') :
    w.files.Reaches search.root.text (w.files.placeOf search.root) := by
  cases listed : w.files.list search.root.text with
  | error e =>
    have failed : (search.visit action).run s w = .error (.file e) w := scan_refused listed _ _
    exact nomatch failed.symm.trans done
  | ok listing =>
    obtain ⟨p, located⟩ := FileTree.list_ok listed
    have here : p = w.files.placeOf search.root := FileTree.locate_place unlinked normal located
    exact here ▸ .of_locate located

theorem Search.visit_retraces (search : Search) (sound : start.IsSound) (unlinked : start.IsUnlinked)
    (untouching : Untouching (start.placeOf search.root) start action) (normal : search.root.IsNormal)
    (before : IsUntouched (start.placeOf search.root) start w.files)
    (reaches : start.Reaches search.root.text (start.placeOf search.root)) :
    Retraces action (search.find start) s w ((search.visit action).run s w) := by
  rw [Search.find_eq, Search.visit_run, before.grows.platform]
  exact scan_retraces sound unlinked untouching before (Path.text_ne_empty normal) reaches
    List.prefix_rfl

end

end PluginBuild
