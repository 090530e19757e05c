import PluginBuild.Proofs.Checking

/-!
The diagnostics that come of a task. They are added behind those that were delivered before, whatever
comes of the task; an analysis counts the errors among those that it adds.
-/

namespace PluginBuild

open PluginBuild.Script PluginBuild.Text

/-- Whatever comes of a task, the diagnostics that it adds are of one kind. -/
def Delivers {α : Type} (kind : Diagnostic → Prop) (task : Build α) : Prop :=
  ∀ w, ∃ ds, (finalState (task w)).diagnostics = w.diagnostics ++ ds ∧ ∀ d ∈ ds, kind d

theorem Build.forM_record_run (records : List LogRecord) (w : Workspace) :
    (records.forM fun record => Build.record record.level record.message) w =
      .ok () { w with log := w.log ++ records } := by
  induction records generalizing w with
  | nil => simp [List.forM, pure, EStateM.pure]
  | cons record rest ih =>
    rw [Build.forM_cons_run]
    show (rest.forM fun record => Build.record record.level record.message)
      { w with log := w.log ++ [record] } = _
    rw [ih, List.append_assoc]
    rfl

theorem Sink.deliver_run (sink : Sink) (d : Diagnostic) (w : Workspace) :
    sink.deliver d w = match sink.take w.diagnostics d with
      | .ok records =>
        .ok () { w with diagnostics := w.diagnostics ++ [d], log := w.log ++ records }
      | .error message => .error (.crash message) { w with diagnostics := w.diagnostics ++ [d] } := by
  show (match sink.take w.diagnostics d with
    | .ok records => records.forM fun record => Build.record record.level record.message
    | .error message => throw (.crash message) : Build Unit)
      { w with diagnostics := w.diagnostics ++ [d] } = _
  cases sink.take w.diagnostics d with
  | ok records => exact Build.forM_record_run records _
  | error message => rfl

theorem Sink.deliver_diagnostics (sink : Sink) (d : Diagnostic) (w : Workspace) :
    (finalState (sink.deliver d w)).diagnostics = w.diagnostics ++ [d] := by
  rw [Sink.deliver_run]
  split <;> rfl

namespace Delivers

variable {α β : Type} {kind : Diagnostic → Prop}

theorem of_same {task : Build α} (same : ∀ w, (finalState (task w)).diagnostics = w.diagnostics) :
    Delivers kind task := by
  intro w
  refine ⟨[], ?_, fun _ member => nomatch member⟩
  rw [same, List.append_nil]

theorem pure (a : α) : Delivers kind (Pure.pure a : Build α) := of_same fun _ => rfl

theorem throw (e : Failure) : Delivers kind (throw e : Build α) := of_same fun _ => rfl

theorem bind {task : Build α} {next : α → Build β} (first : Delivers kind task)
    (second : ∀ a, Delivers kind (next a)) : Delivers kind (task >>= next) := by
  intro w
  obtain ⟨ds, added, all⟩ := first w
  rw [Build.bind_run]
  cases ended : task w with
  | error e w₁ =>
    rw [ended] at added
    exact ⟨ds, added, all⟩
  | ok a w₁ =>
    rw [ended] at added
    obtain ⟨more, added', all'⟩ := second a w₁
    refine ⟨ds ++ more, ?_, ?_⟩
    · rw [added', ← List.append_assoc]
      exact congrArg (· ++ more) added
    · intro d member
      rcases List.mem_append.mp member with here | later
      · exact all d here
      · exact all' d later

theorem forM {xs : List α} {task : α → Build Unit} (each : ∀ x, Delivers kind (task x)) :
    Delivers kind (xs.forM task) := by
  induction xs with
  | nil => exact pure ()
  | cons x rest ih => exact bind (each x) fun _ => ih

theorem deliver (sink : Sink) {d : Diagnostic} (fits : kind d) : Delivers kind (sink.deliver d) := by
  intro w
  refine ⟨[d], sink.deliver_diagnostics d w, ?_⟩
  intro other member
  obtain rfl := List.mem_singleton.mp member
  exact fits

end Delivers

namespace Analysis

/-- Tasks of the analysis of a source that are put together from reports, look-ups of modules and records
of the checks. -/
inductive IsPlain (s : Subject) : {α : Type} → Analysis α → Prop where
  | pure {α : Type} (a : α) : IsPlain s (Pure.pure a : Analysis α)
  | bind {α β : Type} {task : Analysis α} {next : α → Analysis β} (first : IsPlain s task)
      (second : ∀ a, IsPlain s (next a)) : IsPlain s (task >>= next)
  | check (name : String) : IsPlain s (liftM (Build.record .debug
      s!"module={s.configuration.moduleName} check={name}") : Analysis Unit)
  | resolves (module : String) : IsPlain s (Analysis.resolves module)
  | report (severity : Severity) (line column : Int) (message : String) :
      IsPlain s (Analysis.report s severity line column message)

namespace IsPlain

variable {s : Subject}

theorem forM {α : Type} {xs : List α} {task : α → Analysis Unit}
    (each : ∀ x ∈ xs, IsPlain s (task x)) : IsPlain s (xs.forM task) := by
  induction xs with
  | nil => exact pure ()
  | cons x rest ih =>
    have later := ih fun y member => each y (List.mem_cons_of_mem x member)
    exact bind (each x List.mem_cons_self) fun _ => later

theorem error (pos : Pos) (message : String) : IsPlain s (Analysis.error s pos message) :=
  report .error _ _ message

theorem requireModule (pos : Pos) (module : String) : IsPlain s (requireModule s pos module) := by
  refine bind (resolves module) fun found => ?_
  split
  · exact error pos _
  · exact pure ()

theorem checkImport (n : Node) : IsPlain s (checkImport s n) := by
  unfold PluginBuild.checkImport
  split
  · exact forM fun a _ => requireModule _ a.name
  · dsimp only
    split
    · refine bind (error _ _) fun _ => ?_
      split
      · split
        · exact requireModule _ _
        · exact pure ()
      · exact pure ()
    · split
      · split
        · exact requireModule _ _
        · exact pure ()
      · exact pure ()
  · exact pure ()

theorem checkTemplate (s : Subject) : IsPlain s (checkTemplate s) := by
  refine bind (resolves s.configuration.template.module) fun found => ?_
  split
  · exact report .error 1 1 _
  · exact pure ()

theorem builtinChecks (s : Subject) :
    ∀ named ∈ builtinChecks.checks, IsPlain s (named.2 s) := by
  intro named member
  simp only [PluginBuild.builtinChecks, List.mem_cons, List.not_mem_nil, or_false] at member
  rcases member with rfl | rfl | rfl | rfl
  · exact forM fun (pos, fault) _ => error pos fault.message
  · exact forM fun (pos, fault) _ => error pos fault.message
  · exact forM fun n _ => checkImport n
  · exact checkTemplate s

theorem runChecks (s : Subject) : IsPlain s (runChecks s) :=
  forM fun named member => bind (.check named.1) fun _ => builtinChecks s named member

end IsPlain

theorem report_run (s : Subject) (severity : Severity) (line column : Int) (message : String)
    (f : Findings) (w : Workspace) : (report s severity line column message).run f w =
      match s.configuration.sink.deliver (s.unit.diagnostic severity line column message) w with
      | .ok () w => .ok ((), { f with errors := f.errors + if severity.isError then 1 else 0 }) w
      | .error e w => .error e w := by
  unfold report
  generalize s.configuration.sink.deliver (s.unit.diagnostic severity line column message) = delivery
  cases severity.isError with
  | false =>
    refine (Build.lift_run delivery f w).trans ?_
    cases delivery w <;> rfl
  | true =>
    refine (Build.lift_run delivery { f with errors := f.errors + 1 } w).trans ?_
    cases delivery w <;> rfl

/-- Whatever comes of a plain task, it only adds diagnostics. Where it ends, it has counted the errors
among them. -/
theorem IsPlain.tallies {s : Subject} {α : Type} {task : Analysis α} (plain : IsPlain s task) (f : Findings)
    (w : Workspace) : ∃ ds, (finalState (task.run f w)).diagnostics = w.diagnostics ++ ds ∧
      ∀ a f' w', task.run f w = .ok (a, f') w' →
        f'.errors = f.errors + ds.countP (·.isError) := by
  induction plain generalizing f w with
  | pure a =>
    refine ⟨[], (List.append_nil _).symm, ?_⟩
    rintro _ _ _ ⟨⟩
    rfl
  | check name =>
    refine ⟨[], (List.append_nil _).symm, ?_⟩
    rintro _ _ _ ⟨⟩
    rfl
  | resolves module =>
    refine ⟨[], ?_, ?_⟩
    · rw [resolves_run, List.append_nil]
      split <;> rfl
    · intro found f' w' done
      rw [resolves_run] at done
      split at done
      · cases done
        rfl
      · exact nomatch done
  | report severity line column message =>
    let d := s.unit.diagnostic severity line column message
    refine ⟨[d], ?_, ?_⟩
    · rw [← s.configuration.sink.deliver_diagnostics d w, report_run]
      cases s.configuration.sink.deliver d w <;> rfl
    · intro _ f' w' done
      rw [report_run] at done
      split at done
      · cases done
        simp [d, SourceUnit.diagnostic, Diagnostic.isError]
      · exact nomatch done
  | @bind α β task next first second ih ih' =>
    -- A first part that fails has delivered what it delivered; there is no count to tell then.
    obtain ⟨ds, added, counted⟩ := ih f w
    show ∃ more, (finalState ((task.run f >>= fun p => (next p.1).run p.2) w)).diagnostics = _ ∧
      ∀ b f' w', (task.run f >>= fun p => (next p.1).run p.2) w = _ → _
    rw [Build.bind_run]
    cases ended : task.run f w with
    | error e w₁ =>
      rw [ended] at added
      exact ⟨ds, added, fun _ _ _ done => nomatch done⟩
    | ok p w₁ =>
      rw [ended] at added
      obtain ⟨a, f₁⟩ := p
      obtain ⟨more, added', counted'⟩ := ih' a f₁ w₁
      refine ⟨ds ++ more, ?_, ?_⟩
      · rw [← List.append_assoc, ← show w₁.diagnostics = _ from added]
        exact added'
      · intro b f' w' done
        have here := counted a f₁ w₁ ended
        have later := counted' b f' w' done
        rw [List.countP_append]
        omega

/-- A call that reports. What is missing of a place stands for the beginning. -/
inductive Report where
  | message (severity : Severity) (line column : Int) (text : String)
  | error (line column : Option Int) (text : String)
  | errorAtStart (text : String)

namespace Report

def make (s : Subject) : Report → Analysis Unit
  | message severity line column text => Analysis.report s severity line column text
  | error line column text => Analysis.errorAt s line column text
  | errorAtStart text => Analysis.errorAtStart s text

def diagnostic (s : Subject) : Report → Diagnostic
  | message severity line column text => s.unit.diagnostic severity line column text
  | error line column text => s.unit.diagnostic .error (orOne line) (column.getD 0 + 1) text
  | errorAtStart text => s.unit.diagnostic .error 1 1 text

theorem make_run (s : Subject) (r : Report) (f : Findings) (w : Workspace) :
    (r.make s).run f w = match s.configuration.sink.deliver (r.diagnostic s) w with
      | .ok () w => .ok ((), { f with errors := f.errors + if (r.diagnostic s).isError then 1 else 0 }) w
      | .error e w => .error e w := by
  cases r with
  | message severity line column text => exact report_run s severity line column text f w
  | error line column text => exact report_run s .error (orOne line) (column.getD 0 + 1) text f w
  | errorAtStart text => exact report_run s .error 1 1 text f w

theorem forM_make_ok {s : Subject} {calls : List Report} {f f' : Findings} {w w' : Workspace}
    (done : (calls.forM (make s)).run f w = .ok ((), f') w') :
    w'.diagnostics = w.diagnostics ++ calls.map (diagnostic s) ∧
      f'.errors = f.errors + (calls.map (diagnostic s)).countP (·.isError) := by
  induction calls generalizing f w with
  | nil =>
    cases done
    exact ⟨(List.append_nil _).symm, rfl⟩
  | cons r rest ih =>
    rw [Build.forM_cons_runState, make_run] at done
    have added := s.configuration.sink.deliver_diagnostics (r.diagnostic s) w
    cases delivered : s.configuration.sink.deliver (r.diagnostic s) w with
    | error e w₁ =>
      rw [delivered] at done
      exact nomatch done
    | ok _ w₁ =>
      rw [delivered] at done added
      obtain ⟨later, counted⟩ := ih done
      rw [show w₁.diagnostics = _ from added] at later
      refine ⟨by rw [later, List.append_assoc]; rfl, ?_⟩
      rw [counted, List.map_cons, List.countP_cons]
      dsimp only
      omega

end Report

end Analysis

/-- A run of a check adds diagnostics, but no error. -/
def ReportsNoError (check : Check) (s : Subject) (f : Findings) (w : Workspace) : Prop :=
  ∃ ds, (finalState ((check s).run f w)).diagnostics = w.diagnostics ++ ds ∧
    ∀ d ∈ ds, d.isError = false

/-- A check that reports its faults one after the other reports no error only if it finds none. That
the sink may refuse the first one does not matter, since it has been delivered by then. -/
theorem reportsNoError_iff {α : Type} (faults : Subject → List (Pos × α)) (message : α → String)
    (s : Subject) (f : Findings) (w : Workspace) :
    ReportsNoError (fun s => (faults s).forM fun (pos, fault) => Analysis.error s pos (message fault))
      s f w ↔ faults s = [] := by
  unfold ReportsNoError
  dsimp only
  generalize faults s = found
  constructor
  · rintro ⟨ds, added, notices⟩
    match found with
    | [] => rfl
    | (pos, fault) :: rest =>
      let call : Analysis.Report := .error (some pos.line) (some pos.column) (message fault)
      have delivered := s.configuration.sink.deliver_diagnostics (call.diagnostic s) w
      have later : ∀ f w, ∃ more, (finalState ((rest.forM fun (pos, fault) =>
          Analysis.error s pos (message fault)).run f w)).diagnostics = w.diagnostics ++ more := by
        intro f w
        have plain : Analysis.IsPlain s (rest.forM fun (pos, fault) =>
            Analysis.error s pos (message fault)) := .forM fun (pos, fault) _ => .error pos _
        exact (plain.tallies f w).imp fun more tallied => tallied.1
      have isFirst : ∃ more, w.diagnostics ++ ds = w.diagnostics ++ [call.diagnostic s] ++ more := by
        rw [← added, ← delivered, Build.forM_cons_runState]
        rw [show (Analysis.error s pos (message fault)).run f w = _ from call.make_run s f w]
        cases s.configuration.sink.deliver (call.diagnostic s) w with
        | error e w₁ => exact ⟨[], (List.append_nil _).symm⟩
        | ok _ w₁ => exact later _ w₁
      -- So the first fault is among what the run added, and it is an error.
      obtain ⟨more, same⟩ := isFirst
      rw [List.append_assoc, List.append_cancel_left_eq] at same
      exact nomatch notices (call.diagnostic s) (same ▸ List.mem_append_left more List.mem_cons_self)
  · rintro rfl
    exact ⟨[], (List.append_nil _).symm, fun _ member => nomatch member⟩

end PluginBuild
