import PluginBuild.Proofs.Walk

/-!
Properties that a task keeps. Whatever comes of the task, a value or a failure, the property still holds
of what the task worked on as it is then. Reading keeps every property of the files, and a search keeps
what each of its visits keeps, whatever ending is asked for.
-/

namespace PluginBuild

open PluginBuild.Files PluginBuild.Text

/-- A property of workspaces still holds after a task if it held before, also where the task fails. -/
def Build.Maintains {α : Type} (keep : Workspace → Prop) (task : Build α) : Prop :=
  ∀ w, keep w → keep (finalState (task w))

/-- A property of the files still holds after a task if it held before, also where the task fails. -/
def Build.Keeps {α : Type} (keep : FileTree → Prop) (task : Build α) : Prop :=
  ∀ w, keep w.files → keep (finalState (task w)).files

namespace Build.Maintains

variable {α β : Type} {keep : Workspace → Prop} {w w' : Workspace}

theorem of_ok {task : Build α} (maintains : Maintains keep task) (before : keep w) {a : α}
    (done : task w = .ok a w') : keep w' := by
  have after := maintains w before
  rwa [done] at after

theorem of_error {task : Build α} (maintains : Maintains keep task) (before : keep w) {e : Failure}
    (failed : task w = .error e w') : keep w' := by
  have after := maintains w before
  rwa [failed] at after

theorem pure (a : α) : Maintains keep (Pure.pure a : Build α) := fun _ before => before

theorem throw (e : Failure) : Maintains keep (MonadExcept.throw e : Build α) := fun _ before => before

/-- The second task need not maintain the property but for what the first one can end with. -/
theorem andThen {task : Build α} {next : α → Build β} (first : Maintains keep task)
    (second : ∀ w a w', task w = .ok a w' → Maintains keep (next a)) : Maintains keep (task >>= next) := by
  intro w before
  rw [Build.bind_run]
  cases ended : task w with
  | ok a w₁ => exact second w a w₁ ended w₁ (first.of_ok before ended)
  | error e w₁ => exact first.of_error before ended

theorem bind {task : Build α} {next : α → Build β} (first : Maintains keep task)
    (second : ∀ a, Maintains keep (next a)) : Maintains keep (task >>= next) :=
  first.andThen fun _ a _ _ => second a

theorem forM {xs : List α} {task : α → Build Unit} (each : ∀ x, Maintains keep (task x)) :
    Maintains keep (xs.forM task) := by
  induction xs with
  | nil => exact pure ()
  | cons x rest ih => exact bind (each x) fun _ => ih

theorem sources (environment : Environment) : Maintains keep environment.sources := by
  intro w before
  rw [Environment.sources_run]
  split <;> exact before

theorem guarded {task : Build α} (maintains : Maintains keep task) (source : Path) :
    Maintains keep (guarded source task) := by
  intro w before
  have after := maintains w before
  rw [guarded_run]
  split <;> simp_all [finalState]

end Build.Maintains

namespace Build.Keeps

variable {α : Type} {keep : FileTree → Prop} {w w' : Workspace}

theorem maintains {task : Build α} (keeps : Keeps keep task) :
    Maintains (fun w => keep w.files) task := keeps

theorem of_ok {task : Build α} (keeps : Keeps keep task) (before : keep w.files) {a : α}
    (done : task w = .ok a w') : keep w'.files :=
  keeps.maintains.of_ok before done

theorem of_error {task : Build α} (keeps : Keeps keep task) (before : keep w.files) {e : Failure}
    (failed : task w = .error e w') : keep w'.files :=
  keeps.maintains.of_error before failed

theorem of_reads {task : Build α} (reads : OnlyReads task) : Keeps keep task := by
  intro w before
  rw [(reads.agrees w).files]
  exact before

theorem guarded {task : Build α} (keeps : Keeps keep task) (source : Path) :
    Keeps keep (guarded source task) :=
  keeps.maintains.guarded source

end Build.Keeps

theorem Compiler.produce_maintains {keep : Workspace → Prop} (c : Compiler) (source : Path)
    {environment : Environment} (maintains : Build.Maintains keep (c.toolchain environment)) :
    Build.Maintains keep (c.produce source environment) := by
  refine maintains.bind fun generated => ?_
  split
  · exact .throw _
  · refine .bind (.sources environment) fun units => ?_
    split
    · exact .throw _
    · exact .pure _

theorem Compiler.produce_keeps {keep : FileTree → Prop} (c : Compiler) (source : Path)
    {environment : Environment} (keeps : Build.Keeps keep (c.toolchain environment)) :
    Build.Keeps keep (c.produce source environment) :=
  c.produce_maintains source keeps.maintains

section
variable {σ : Type} {keep : Workspace → Prop}

theorem forM_visits_maintain {α : Type} {visit : α → StateT σ Build Unit} {xs : List α}
    (each : ∀ x ∈ xs, ∀ s, Build.Maintains keep ((visit x).run s)) (s : σ) :
    Build.Maintains keep ((xs.forM visit).run s) := by
  induction xs generalizing s with
  | nil => exact .pure _
  | cons x rest ih =>
    have later := ih fun y member => each y (List.mem_cons_of_mem x member)
    intro w before
    rw [Build.forM_cons_runState]
    cases ended : (visit x).run s w with
    | ok result w₁ => exact later _ w₁ ((each x List.mem_cons_self s).of_ok before ended)
    | error e w₁ => exact (each x List.mem_cons_self s).of_error before ended

theorem scan_maintains {action : Path → StateT σ Build Unit}
    (each : ∀ source s, Build.Maintains keep ((action source).run s)) (search : Search) (room : Nat)
    (directory : String) (s : σ) :
    Build.Maintains keep ((scan search action room directory).run s) := by
  induction room using Nat.strongRecOn generalizing directory s with
  | ind room ih =>
    intro w before
    rw [scan_run]
    split
    · exact before
    · rename_i listing _
      rw [StateT.run_bind]
      refine Build.Maintains.bind ?_ ?_ w before
      · exact forM_visits_maintain (fun name _ => each _) s
      · rintro ⟨⟨⟩, s₁⟩
        cases room with
        | zero =>
          unfold onward
          dsimp only
          split
          · exact .pure _
          · exact .throw _
        | succ room =>
          refine forM_visits_maintain (fun name _ s w before => ?_) s₁
          rw [enter_run]
          split
          · exact before
          · exact ih room (Nat.lt_succ_self room) _ s w before

theorem Search.visit_maintains {action : Path → StateT σ Build Unit}
    (each : ∀ source s, Build.Maintains keep ((action source).run s)) (search : Search) (s : σ) :
    Build.Maintains keep ((search.visit action).run s) := by
  intro w before
  rw [Search.visit_run]
  exact scan_maintains each search w.files.platform.room search.root.text s w before

end

end PluginBuild
