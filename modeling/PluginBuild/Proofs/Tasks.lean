import PluginBuild.Compiler
import PluginBuild.Proofs.Files.Access

/-!
Rules for tasks. A task that only reads leaves the files and the environments as they are, whatever comes
of it, and compositions of such tasks are such tasks. An analysis is such a task that also counts errors, and
the count never falls.
-/

namespace PluginBuild

open PluginBuild.Files PluginBuild.Text

theorem bind_ok {ε α β : Type} {first : Except ε α} {next : α → Except ε β} {b : β}
    (done : first >>= next = .ok b) : ∃ a, first = .ok a ∧ next a = .ok b := by
  cases first with
  | error e => exact nomatch done
  | ok a => exact ⟨a, rfl, done⟩

namespace Build

variable {α β : Type} {w w' : Workspace}

theorem bind_run (task : Build α) (next : α → Build β) (w : Workspace) :
    (task >>= next) w = match task w with
      | .ok a w => next a w
      | .error e w => .error e w := by
  cases ended : task w <;> simp [Bind.bind, EStateM.bind, ended]

theorem get_run (next : Workspace → Build α) (w : Workspace) : (get >>= next) w = next w w := rfl

theorem lift_run {σ : Type} (task : Build α) (s : σ) (w : Workspace) :
    (liftM task : StateT σ Build α).run s w = match task w with
      | .ok a w => .ok (a, s) w
      | .error e w => .error e w := by
  show (task >>= fun a => pure (a, s)) w = _
  rw [bind_run]
  cases task w <;> rfl

theorem bind_eq_ok {task : Build α} {next : α → Build β} {b : β}
    (done : (task >>= next) w = .ok b w') : ∃ a w₁, task w = .ok a w₁ ∧ next a w₁ = .ok b w' := by
  rw [bind_run] at done
  split at done
  · rename_i a w₁ first
    exact ⟨a, w₁, first, done⟩
  · exact nomatch done

theorem forM_cons_run (task : α → Build Unit) (x : α) (rest : List α) (w : Workspace) :
    (x :: rest).forM task w = match task x w with
      | .ok _ w => rest.forM task w
      | .error e w => .error e w := by
  show (task x >>= fun _ => rest.forM task) w = _
  rw [bind_run]
  cases task x w <;> rfl

theorem forM_cons_runState {σ : Type} (task : α → StateT σ Build Unit) (x : α) (rest : List α) (s : σ)
    (w : Workspace) : ((x :: rest).forM task).run s w = match (task x).run s w with
      | .ok (_, s) w => (rest.forM task).run s w
      | .error e w => .error e w := by
  show ((task x).run s >>= fun result => (rest.forM task).run result.2) w = _
  rw [bind_run]
  cases (task x).run s w <;> rfl

theorem ask_run (request : FileTree → Except FileError α) (w : Workspace) :
    ask request w = match request w.files with
      | .ok a => .ok a w
      | .error e => .error (.file e) w := by
  show (match request w.files with
    | .ok a => pure a
    | .error e => throw (Failure.file e) : Build α) w = _
  cases request w.files <;> rfl

theorem outcome_run (task : Build α) (w : Workspace) :
    outcome task w = match task w with
      | .ok a w => .ok (.ok a) w
      | .error e w => .ok (.error e) w := rfl

end Build

theorem Environment.sources_run (environment : Environment) (w : Workspace) :
    environment.sources w = if w.disposed.getD environment.number false
      then .error (.toolchain .disposed) w else .ok environment.units w := by
  show (if w.disposed.getD environment.number false then throw (.toolchain .disposed) >>= _
    else pure environment.units : Build (List SourceUnit)) w = _
  split <;> rfl

/-- The failure of a compilation that has no file for its class. -/
def Failure.IsArtifactMissing (e : Failure) : Prop :=
  ∃ path source, e = .compilation ⟨.artifactMissing path, source⟩

/-- Workspaces with the same files and environments. Only what was told may differ. -/
structure Workspace.Agrees (w w' : Workspace) : Prop where
  files : w'.files = w.files
  disposed : w'.disposed = w.disposed
  scope : w'.scope = w.scope

namespace Workspace.Agrees

variable {w w₁ w' : Workspace}

@[refl]
theorem refl (w : Workspace) : w.Agrees w := ⟨rfl, rfl, rfl⟩

theorem trans (first : w.Agrees w₁) (second : w₁.Agrees w') : w.Agrees w' :=
  ⟨second.files.trans first.files, second.disposed.trans first.disposed, second.scope.trans first.scope⟩

end Workspace.Agrees

/-- A task that leaves the files and the environments as they are. Where it fails, it is not for want of
the file of a class. -/
structure OnlyReads {α : Type} (task : Build α) : Prop where
  agrees : ∀ w : Workspace, w.Agrees (finalState (task w))
  failure : ∀ w e w', task w = .error e w' → ¬ e.IsArtifactMissing

namespace OnlyReads

variable {α β : Type} {w w' : Workspace}

theorem agrees_of_ok {task : Build α} (reads : OnlyReads task) {a : α} (done : task w = .ok a w') :
    w.Agrees w' := by
  have same := reads.agrees w
  rwa [done] at same

theorem agrees_of_error {task : Build α} (reads : OnlyReads task) {e : Failure}
    (failed : task w = .error e w') : w.Agrees w' := by
  have same := reads.agrees w
  rwa [failed] at same

theorem pure (a : α) : OnlyReads (Pure.pure a : Build α) :=
  ⟨fun _ => .refl _, fun _ _ _ failed => nomatch failed⟩

theorem throw {e : Failure} (other : ¬ e.IsArtifactMissing) : OnlyReads (throw e : Build α) := by
  refine ⟨fun _ => .refl _, ?_⟩
  rintro w _ _ ⟨⟩
  exact other

theorem throwFirst {e : Failure} (other : ¬ e.IsArtifactMissing) (next : α → Build β) :
    OnlyReads (MonadExcept.throw e >>= next) :=
  throw other

theorem bind {task : Build α} {next : α → Build β} (first : OnlyReads task)
    (second : ∀ a, OnlyReads (next a)) : OnlyReads (task >>= next) := by
  constructor
  · intro w
    rw [Build.bind_run]
    split
    · rename_i a w₁ done
      exact (first.agrees_of_ok done).trans ((second a).agrees w₁)
    · rename_i e w₁ failed
      exact first.agrees_of_error failed
  · intro w e w' failed
    rw [Build.bind_run] at failed
    split at failed
    · rename_i a w₁ done
      exact (second a).failure w₁ e w' failed
    · rename_i e' w₁ first_failed
      cases failed
      exact first.failure w _ _ first_failed

theorem record (level : LogLevel) (message : String) : OnlyReads (Build.record level message) :=
  ⟨fun _ => ⟨rfl, rfl, rfl⟩, fun _ _ _ failed => nomatch failed⟩

theorem sources (environment : Environment) : OnlyReads environment.sources := by
  refine .bind ⟨fun _ => ⟨rfl, rfl, rfl⟩, fun _ _ _ failed => nomatch failed⟩ fun isDisposed => ?_
  cases isDisposed with
  | true => exact .throw fun ⟨_, _, same⟩ => nomatch same
  | false => exact .pure environment.units

theorem forM {xs : List α} {task : α → Build Unit} (each : ∀ x, OnlyReads (task x)) :
    OnlyReads (xs.forM task) := by
  induction xs with
  | nil => exact .pure ()
  | cons x rest ih => exact .bind (each x) fun _ => ih

theorem deliver (sink : Sink) (d : Diagnostic) : OnlyReads (sink.deliver d) := by
  refine .bind ⟨fun _ => ⟨rfl, rfl, rfl⟩, fun _ _ _ failed => nomatch failed⟩ fun _ => ?_
  refine .bind ⟨fun _ => ⟨rfl, rfl, rfl⟩, fun _ _ _ failed => nomatch failed⟩ fun _ => ?_
  split
  · exact .forM fun _ => .record _ _
  · exact .throw fun ⟨_, _, same⟩ => nomatch same

end OnlyReads

namespace Analysis

variable {α β : Type}

/-- A task of an analysis that reports at least so many errors. -/
structure Reports (errors : Nat) (task : Analysis α) : Prop where
  reads : ∀ f, OnlyReads (task.run f)
  counts : ∀ f w a f' w', task.run f w = .ok (a, f') w' → f.errors + errors ≤ f'.errors

namespace Reports

theorem mono {few many : Nat} {task : Analysis α} (reports : Reports many task) (less : few ≤ many) :
    Reports few task :=
  ⟨reports.reads, fun f w a f' w' done => by have := reports.counts f w a f' w' done; omega⟩

theorem pure (a : α) : Reports 0 (Pure.pure a : Analysis α) := by
  refine ⟨fun f => .pure (a, f), ?_⟩
  rintro f w _ _ _ ⟨⟩
  exact Nat.le_refl _

theorem lift {task : Build α} (reads : OnlyReads task) : Reports 0 (liftM task : Analysis α) := by
  refine ⟨fun f => .bind reads fun a => .pure (a, f), ?_⟩
  intro f w a f' w' done
  obtain ⟨_, w₁, -, same⟩ := Build.bind_eq_ok done
  cases same
  exact Nat.le_refl _

theorem bind {m n : Nat} {task : Analysis α} {next : α → Analysis β} (first : Reports m task)
    (second : ∀ a, Reports n (next a)) : Reports (m + n) (task >>= next) := by
  refine ⟨fun f => .bind (first.reads f) fun (a, f') => (second a).reads f', ?_⟩
  intro f w b f' w' done
  obtain ⟨⟨a, f₁⟩, w₁, one, two⟩ := Build.bind_eq_ok done
  have front := first.counts f w a f₁ w₁ one
  have back := (second a).counts f₁ w₁ b f' w' two
  omega

theorem andThen {m : Nat} {task : Analysis α} {next : α → Analysis β} (first : Reports m task)
    (second : ∀ a, Reports 0 (next a)) : Reports m (task >>= next) :=
  bind first second

theorem forM {n : Nat} {xs : List α} {task : α → Analysis Unit} (each : ∀ x ∈ xs, Reports n (task x)) :
    Reports (xs.length * n) (xs.forM task) := by
  induction xs with
  | nil => exact (pure ()).mono (by simp)
  | cons x rest ih =>
    have here := each x List.mem_cons_self
    have later := ih fun y member => each y (List.mem_cons_of_mem x member)
    refine (bind here fun _ => later).mono ?_
    simp only [List.length_cons, Nat.add_mul, Nat.one_mul]
    omega

end Reports

end Analysis

end PluginBuild
