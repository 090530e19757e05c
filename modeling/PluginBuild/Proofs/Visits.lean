import PluginBuild.Proofs.Tasks

/-!
Tasks that visit scripts, against a list of the scripts that they are to visit. Whatever comes of such
a task, what it has visited is the beginning of the list, and it is all of it where the task does not
fail.
-/

namespace PluginBuild

open PluginBuild.Files PluginBuild.Text

section
variable {σ : Type} {action : Path → StateT σ Build Unit} {s : σ} {w : Workspace}

/-- Ends of a task that visits scripts, against the scripts that it is to visit: it has visited all of
them, or it could not go on after some, or the visit of the next one failed. -/
inductive Covers (action : Path → StateT σ Build Unit) (expected : Except Failure (List Path))
    (s : σ) (w : Workspace) : EStateM.Result Failure Workspace (Unit × σ) → Prop
  | all {sources : List Path} {s' : σ} {w' : Workspace} (known : expected = .ok sources)
    (ran : (sources.forM action).run s w = .ok ((), s') w') :
    Covers action expected s w (.ok ((), s') w')
  | stopped {done : List Path} {s' : σ} {w' : Workspace} {e : Failure}
    (ran : (done.forM action).run s w = .ok ((), s') w')
    (front : ∀ sources, expected = .ok sources → done <+: sources) :
    Covers action expected s w (.error e w')
  | failed {done : List Path} {last : Path} {s₁ : σ} {w₁ w' : Workspace} {e : Failure}
    (ran : (done.forM action).run s w = .ok ((), s₁) w₁)
    (fails : (action last).run s₁ w₁ = .error e w')
    (front : ∀ sources, expected = .ok sources → done ++ [last] <+: sources) :
    Covers action expected s w (.error e w')

def bothLists (first second : Except Failure (List Path)) : Except Failure (List Path) := do
  let one ← first
  let two ← second
  return one ++ two

theorem bothLists_ok {first second : Except Failure (List Path)} {sources : List Path}
    (known : bothLists first second = .ok sources) :
    ∃ one two, first = .ok one ∧ second = .ok two ∧ sources = one ++ two := by
  cases first with
  | error e => exact nomatch known
  | ok one =>
    cases second with
    | error e => exact nomatch known
    | ok two => exact ⟨one, two, rfl, rfl, (Except.ok.inj known).symm⟩

theorem forM_append_run {first second : List Path} {s₁ s₂ : σ} {w₁ w₂ : Workspace}
    (one : (first.forM action).run s w = .ok ((), s₁) w₁)
    (two : (second.forM action).run s₁ w₁ = .ok ((), s₂) w₂) :
    ((first ++ second).forM action).run s w = .ok ((), s₂) w₂ := by
  rw [List.forM_eq_forM, List.forM_append, StateT.run_bind, Build.bind_run]
  rw [List.forM_eq_forM] at one two
  rw [one]
  exact two

theorem forM_keeps (keep : FileTree → FileTree → Prop) {start : FileTree}
    (refl : ∀ {t}, keep start t → keep t t)
    (trans : ∀ {t t' t''}, keep t t' → keep t' t'' → keep t t'')
    (each : ∀ source s w s' w', keep start w.files →
      (action source).run s w = .ok ((), s') w' → keep w.files w'.files)
    {sources : List Path} {s' : σ} {w' : Workspace} (before : keep start w.files)
    (ran : (sources.forM action).run s w = .ok ((), s') w') : keep w.files w'.files := by
  induction sources generalizing s w with
  | nil =>
    cases ran
    exact refl before
  | cons source rest ih =>
    rw [Build.forM_cons_runState] at ran
    split at ran
    · rename_i s₁ w₁ one
      have here := each source s w s₁ w₁ before one
      exact trans here (ih (trans before here) ran)
    · exact nomatch ran

namespace Covers

theorem nothing (s : σ) (w : Workspace) : Covers action (.ok []) s w (.ok ((), s) w) :=
  .all rfl rfl

theorem forM_nil_run (action : Path → StateT σ Build Unit) (s : σ) (w : Workspace) :
    (([] : List Path).forM action).run s w = .ok ((), s) w := rfl

theorem refused {expected : Except Failure (List Path)} (e : Failure) (s : σ) (w : Workspace) :
    Covers action expected s w (.error e w) :=
  .stopped (forM_nil_run action s w) fun _ _ => List.nil_prefix

theorem one (source : Path) (s : σ) (w : Workspace) :
    Covers action (.ok [source]) s w ((action source).run s w) := by
  cases ended : (action source).run s w with
  | ok result w' =>
    obtain ⟨⟨⟩, s'⟩ := result
    refine .all rfl ?_
    rw [Build.forM_cons_runState, ended]
    rfl
  | error e w' =>
    refine .failed (forM_nil_run action s w) ended ?_
    rintro _ ⟨⟩
    exact List.prefix_rfl

theorem andThen {first second : Except Failure (List Path)} {x y : StateT σ Build Unit}
    (one : Covers action first s w (x.run s w))
    (two : ∀ s₁ w₁, x.run s w = .ok ((), s₁) w₁ → Covers action second s₁ w₁ (y.run s₁ w₁)) :
    Covers action (bothLists first second) s w ((x >>= fun _ => y).run s w) := by
  rw [StateT.run_bind, Build.bind_run]
  generalize ended : x.run s w = r at one
  cases one with
  | all known ran =>
    rename_i sources s₁ w₁
    generalize ended' : y.run s₁ w₁ = r
    have rest := two s₁ w₁ ended
    rw [ended'] at rest
    subst known
    dsimp only
    rw [ended']
    cases rest with
    | all known' ran' =>
      subst known'
      exact .all rfl (forM_append_run ran ran')
    | stopped ran' front =>
      refine .stopped (forM_append_run ran ran') fun both known => ?_
      obtain ⟨_, more, same, known', rfl⟩ := bothLists_ok known
      cases same
      exact (List.prefix_append_right_inj _).mpr (front more known')
    | failed ran' fails front =>
      refine .failed (forM_append_run ran ran') fails fun both known => ?_
      obtain ⟨_, more, same, known', rfl⟩ := bothLists_ok known
      cases same
      rw [List.append_assoc]
      exact (List.prefix_append_right_inj _).mpr (front more known')
  -- Where the first task goes no further, its visits are a front of both lists whatever the second is.
  | stopped ran front =>
    refine .stopped ran fun both known => ?_
    obtain ⟨sources, more, here, -, rfl⟩ := bothLists_ok known
    exact (front sources here).trans (List.prefix_append _ _)
  | failed ran fails front =>
    refine .failed ran fails fun both known => ?_
    obtain ⟨sources, more, here, -, rfl⟩ := bothLists_ok known
    exact (front sources here).trans (List.prefix_append _ _)

theorem forM (paths : List Path) (s : σ) (w : Workspace) :
    Covers action (.ok paths) s w ((paths.forM action).run s w) := by
  induction paths generalizing s w with
  | nil => exact nothing s w
  | cons path rest ih => exact andThen (one path s w) fun s₁ w₁ _ => ih s₁ w₁

end Covers

def noting (action : Path → StateT σ Build Unit) (source : Path) :
    StateT (List Path × σ) Build Unit :=
  fun noted => do
    let ((), s) ← (action source).run noted.2
    return ((), noted.1 ++ [source], s)

/-- A task that, where it does not fail, has visited some scripts one after the other; they are what
the same task with visits that note them comes to. -/
def OnlyVisits (action : Path → StateT σ Build Unit) (task : StateT σ Build Unit)
    (notes : StateT (List Path × σ) Build Unit) : Prop :=
  ∀ seen s w s' w', task.run s w = .ok ((), s') w' → ∃ sources : List Path,
    (sources.forM action).run s w = .ok ((), s') w' ∧
    notes.run (seen, s) w = .ok ((), seen ++ sources, s') w'

namespace OnlyVisits

variable {x y : StateT σ Build Unit} {x' y' : StateT (List Path × σ) Build Unit}

theorem nothing : OnlyVisits action (pure ()) (pure ()) := by
  intro seen s w s' w' done
  cases done
  exact ⟨[], rfl, by rw [List.append_nil]; rfl⟩

theorem one (action : Path → StateT σ Build Unit) (source : Path) :
    OnlyVisits action (action source) (noting action source) := by
  intro seen s w s' w' done
  refine ⟨[source], ?_, ?_⟩
  · rw [Build.forM_cons_runState, done]
    rfl
  · show ((action source).run s >>= fun p => pure ((), seen ++ [source], p.2)) w = _
    rw [Build.bind_run, done]
    rfl

theorem andThen (first : OnlyVisits action x x') (second : OnlyVisits action y y') :
    OnlyVisits action (x >>= fun _ => y) (x' >>= fun _ => y') := by
  intro seen s w s' w' done
  rw [StateT.run_bind] at done
  obtain ⟨⟨⟨⟩, s₁⟩, w₁, here, later⟩ := Build.bind_eq_ok done
  obtain ⟨front, ran, noted⟩ := first seen s w s₁ w₁ here
  obtain ⟨back, ran', noted'⟩ := second (seen ++ front) s₁ w₁ s' w' later
  refine ⟨front ++ back, forM_append_run ran ran', ?_⟩
  rw [StateT.run_bind, Build.bind_run, noted, ← List.append_assoc]
  exact noted'

theorem ite {p : Prop} [Decidable p] (one : OnlyVisits action x x') (two : OnlyVisits action y y') :
    OnlyVisits action (if p then x else y) (if p then x' else y') := by
  split
  · exact one
  · exact two

theorem forM {α : Type} (names : List α) {task : α → StateT σ Build Unit}
    {notes : α → StateT (List Path × σ) Build Unit}
    (each : ∀ name, OnlyVisits action (task name) (notes name)) :
    OnlyVisits action (names.forM task) (names.forM notes) := by
  induction names with
  | nil => exact nothing
  | cons name rest ih => exact (each name).andThen ih

end OnlyVisits

end

end PluginBuild
