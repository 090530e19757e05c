import PluginBuild.Proofs.Abandonment
import PluginBuild.Proofs.Batches

/-!
The lifetimes of environments. A compilation that makes an environment disposes of it at its end, whatever
comes of the compilation, and makes no other; so those of a batch come one after the other, and when it is
over none can still be used. All that a compilation does in between is quiet about environments.
-/

namespace PluginBuild

open PluginBuild.Files PluginBuild.Script PluginBuild.Text

/-- A record that does not tell of an environment. -/
structure LogRecord.IsQuiet (r : LogRecord) : Prop where
  creates : ∀ name entries, r ≠ creation name entries
  disposes : ∀ name, r ≠ disposal name

def AllQuiet (records : List LogRecord) : Prop := ∀ r ∈ records, r.IsQuiet

/-- Records of a task in which no environment is made. -/
structure IsSilent (environments : Nat) (records : List LogRecord) : Prop where
  none : environments = 0
  quiet : AllQuiet records

/-- Records that tell of no environment, or of the whole life of one, which ends with the last of them. -/
inductive IsLifetime (name : String) : (environments : Nat) → List LogRecord → Prop
  | none {records : List LogRecord} (quiet : AllQuiet records) : IsLifetime name 0 records
  | one {before inner : List LogRecord} (entries : Nat) (quiet : AllQuiet before) (inside : AllQuiet inner) :
    IsLifetime name 1 (before ++ creation name entries :: (inner ++ [disposal name]))

/-- Records in which an environment is made only after the one before it was disposed of, and each is
disposed of in the end. -/
inductive TakeTurns : (environments : Nat) → List LogRecord → Prop
  | nil : TakeTurns 0 []
  | quiet {n : Nat} {r : LogRecord} {rest : List LogRecord} (quiet : r.IsQuiet) (more : TakeTurns n rest) :
    TakeTurns n (r :: rest)
  | environment {n : Nat} {name : String} {entries : Nat} {inner rest : List LogRecord}
    (inside : AllQuiet inner) (more : TakeTurns n rest) :
    TakeTurns (n + 1) (creation name entries :: (inner ++ disposal name :: rest))

/-- Some environments were made and disposed of, of which the log has records of some kind. -/
def Workspace.Extends (kind : Nat → List LogRecord → Prop) (w w' : Workspace) : Prop :=
  ∃ n added, kind n added ∧ w'.log = w.log ++ added ∧ w'.disposed = w.disposed ++ List.replicate n true ∧
    w'.scope = w.scope

/-- Whatever comes of a task, it makes no environment and leaves those that there are, and nothing that it
records tells of one. -/
def Build.IsQuiet {α : Type} (task : Build α) : Prop :=
  ∀ w : Workspace, w.Extends IsSilent (finalState (task w))

/-- A toolchain that is quiet about environments, where diagnostics go to the log. -/
def Toolchain.IsQuiet (t : Toolchain) : Prop :=
  ∀ environment, environment.configuration.sink = .logging → (t environment).IsQuiet

/-- A toolchain that comes to an outcome and does nothing else. -/
def Toolchain.ending (outcome : Environment → Except Failure (Option Outputs)) : Toolchain :=
  fun environment => ofExcept (outcome environment)

section
variable {level : LogLevel} {message : String}

theorem LogRecord.isQuiet_of_level (other : level ≠ .debug) : LogRecord.IsQuiet ⟨level, message⟩ := by
  constructor
  · intro name entries same
    exact other (congrArg LogRecord.level same)
  · intro name same
    exact other (congrArg LogRecord.level same)

theorem LogRecord.isQuiet_of_head (c : Char) (head : message.toList.head? = some c) (other : c ≠ 'e') :
    LogRecord.IsQuiet ⟨level, message⟩ := by
  constructor
  · intro name entries same
    rw [show message = _ from congrArg LogRecord.message same] at head
    simp only [creation, String.toList_append, List.append_assoc] at head
    exact other (Option.some.inj head).symm
  · intro name same
    rw [show message = _ from congrArg LogRecord.message same] at head
    simp only [disposal, String.toList_append] at head
    exact other (Option.some.inj head).symm

end

section
variable {first second records : List LogRecord}

theorem AllQuiet.nil : AllQuiet [] := List.forall_mem_nil _

theorem AllQuiet.append (quiet : AllQuiet first) (quiet' : AllQuiet second) : AllQuiet (first ++ second) :=
  List.forall_mem_append.mpr ⟨quiet, quiet'⟩

theorem AllQuiet.takeTurns (quiet : AllQuiet records) : TakeTurns 0 records := by
  induction records with
  | nil => exact .nil
  | cons r rest ih =>
    obtain ⟨here, later⟩ := List.forall_mem_cons.mp quiet
    exact .quiet here (ih later)

variable {m n : Nat}

theorem IsSilent.append (silent : IsSilent m first) (silent' : IsSilent n second) :
    IsSilent (m + n) (first ++ second) :=
  ⟨by rw [silent.none, silent'.none], silent.quiet.append silent'.quiet⟩

theorem TakeTurns.append (turns : TakeTurns m first) (turns' : TakeTurns n second) :
    TakeTurns (m + n) (first ++ second) := by
  induction turns with
  | nil => rwa [Nat.zero_add]
  | quiet quiet more ih => exact .quiet quiet ih
  | environment inside more ih =>
    rw [List.cons_append, List.append_assoc, List.cons_append, Nat.add_right_comm]
    exact .environment inside ih

theorem IsSilent.takeTurns (silent : IsSilent n records) : TakeTurns n records :=
  silent.none ▸ silent.quiet.takeTurns

theorem IsLifetime.takeTurns {name : String} (lifetime : IsLifetime name n records) : TakeTurns n records := by
  cases lifetime with
  | none quiet => exact quiet.takeTurns
  | one entries quiet inside => exact quiet.takeTurns.append (.environment inside .nil)

end

namespace Workspace.Extends

variable {w w₁ w₂ : Workspace} {kind one two both : Nat → List LogRecord → Prop}

theorem trans (closed : ∀ {m n first second}, one m first → two n second → both (m + n) (first ++ second))
    (front : w.Extends one w₁) (back : w₁.Extends two w₂) : w.Extends both w₂ := by
  obtain ⟨m, first, good, log, disposed, scope⟩ := front
  obtain ⟨n, second, good', log', disposed', scope'⟩ := back
  refine ⟨m + n, first ++ second, closed good good', ?_, ?_, scope'.trans scope⟩
  · rw [log', log, List.append_assoc]
  · rw [disposed', disposed, List.append_assoc, List.replicate_append_replicate]

theorem recorded {records : List LogRecord} (quiet : AllQuiet records) {files : FileTree}
    {diagnostics : List Diagnostic} :
    w.Extends IsSilent { w with files, diagnostics, log := w.log ++ records } :=
  ⟨0, records, ⟨rfl, quiet⟩, rfl, (List.append_nil _).symm, rfl⟩

theorem silently {files : FileTree} {diagnostics : List Diagnostic} :
    w.Extends IsSilent { w with files, diagnostics } :=
  ⟨0, [], ⟨rfl, .nil⟩, (List.append_nil _).symm, (List.append_nil _).symm, rfl⟩

theorem refl (empty : kind 0 []) : w.Extends kind w :=
  ⟨0, [], empty, (List.append_nil _).symm, (List.append_nil _).symm, rfl⟩

end Workspace.Extends

namespace Build.IsQuiet

variable {α β : Type}

theorem maintains {kind : Nat → List LogRecord → Prop} {task : Build α} (quiet : IsQuiet task)
    (closed : ∀ {m n first second}, kind m first → IsSilent n second → kind (m + n) (first ++ second))
    (start : Workspace) : task.Maintains (start.Extends kind) :=
  fun w before => before.trans closed (quiet w)

theorem iff_maintains {task : Build α} :
    IsQuiet task ↔ ∀ start : Workspace, task.Maintains (start.Extends IsSilent) := by
  constructor
  · exact fun quiet => quiet.maintains .append
  · exact fun maintains w => maintains w w .silently

theorem pure (a : α) : IsQuiet (Pure.pure a : Build α) := fun _ => .silently

theorem throw (e : Failure) : IsQuiet (MonadExcept.throw e : Build α) := fun _ => .silently

theorem andThen {task : Build α} {next : α → Build β} (first : IsQuiet task)
    (second : ∀ w a w', task w = .ok a w' → IsQuiet (next a)) : IsQuiet (task >>= next) :=
  iff_maintains.mpr fun start => .andThen (iff_maintains.mp first start) fun w a w' done =>
    iff_maintains.mp (second w a w' done) start

theorem bind {task : Build α} {next : α → Build β} (first : IsQuiet task)
    (second : ∀ a, IsQuiet (next a)) : IsQuiet (task >>= next) :=
  first.andThen fun _ a _ _ => second a

theorem forM {xs : List α} {task : α → Build Unit} (each : ∀ x, IsQuiet (task x)) :
    IsQuiet (xs.forM task) :=
  iff_maintains.mpr fun start => .forM fun x => iff_maintains.mp (each x) start

theorem guarded {task : Build α} (quiet : IsQuiet task) (source : Path) : IsQuiet (guarded source task) :=
  iff_maintains.mpr fun start => .guarded (iff_maintains.mp quiet start) source

theorem record {level : LogLevel} {message : String} (quiet : LogRecord.IsQuiet ⟨level, message⟩) :
    IsQuiet (Build.record level message) :=
  fun _ => .recorded (List.forall_mem_singleton.mpr quiet)

theorem change (request : FileTree → Change) : IsQuiet (Build.change request) := by
  intro w
  rw [Build.change_run]
  split <;> exact .silently

theorem sources (environment : Environment) : IsQuiet environment.sources :=
  iff_maintains.mpr fun _ => .sources environment

theorem deliver (d : Diagnostic) : IsQuiet (Sink.logging.deliver d) := by
  intro w
  rw [Sink.deliver_run]
  suffices quiet : AllQuiet d.record?.toList from .recorded quiet
  unfold Diagnostic.record?
  split
  · exact List.forall_mem_singleton.mpr (LogRecord.isQuiet_of_level (by decide))
  · exact .nil

end Build.IsQuiet

section
variable {s : Subject} {c : Configuration}

theorem Analysis.IsPlain.isQuiet {α : Type} {task : Analysis α} (plain : IsPlain s task)
    (logging : s.configuration.sink = .logging) (f : Findings) : Build.IsQuiet (task.run f) := by
  induction plain generalizing f with
  | pure a => exact .pure (a, f)
  | bind first second ih ih' =>
    rw [StateT.run_bind]
    exact .bind (ih f) fun result => ih' result.1 result.2
  | check name =>
    have named : LogRecord.IsQuiet ⟨.debug, s!"module={s.configuration.moduleName} check={name}"⟩ := by
      refine LogRecord.isQuiet_of_head 'm' ?_ (by decide)
      simp only [String.toList_append, List.append_assoc]
      rfl
    exact .bind (.record named) fun _ => .pure _
  | resolves module =>
    intro w
    rw [resolves_run]
    split <;> exact .silently
  | report severity line column message =>
    intro w
    have delivered := Build.IsQuiet.deliver (s.unit.diagnostic severity line column message) w
    rw [report_run, logging]
    cases ended : Sink.logging.deliver (s.unit.diagnostic severity line column message) w with
    | ok _ w₁ | error e w₁ =>
      rw [ended] at delivered
      exact delivered

theorem analyze_isQuiet (logging : c.sink = .logging) (unit : SourceUnit) (symbols : SymbolIndex) :
    Build.IsQuiet (analyze c unit symbols) := by
  unfold analyze
  split
  · rw [logging]
    exact .bind (.deliver _) fun _ => .pure _
  · exact .bind ((Analysis.IsPlain.runChecks _).isQuiet logging _) fun _ => .pure _

theorem analyzeAll_isQuiet (logging : c.sink = .logging) (units : List SourceUnit) (symbols : SymbolIndex) :
    Build.IsQuiet (analyzeAll c symbols units) := by
  induction units generalizing symbols with
  | nil => exact .pure _
  | cons unit rest ih =>
    refine .bind (analyze_isQuiet logging unit symbols) fun result => ?_
    obtain ⟨errors, symbols₁⟩ := result
    refine .bind (ih symbols₁) fun others => ?_
    obtain ⟨analysed, failed⟩ := others
    dsimp only
    split <;> exact .pure _

theorem checkCode_isQuiet (logging : s.configuration.sink = .logging) (fileName : String) (m : Module) :
    Build.IsQuiet (checkCode s fileName m) := by
  unfold checkCode
  split
  · exact .throw _
  · rw [logging]
    exact .forM fun _ => .deliver _

theorem generate_isQuiet (b : Backend) (t : Target) (logging : s.configuration.sink = .logging)
    (outputs : Outputs) : Build.IsQuiet (generate b t s outputs) := by
  unfold generate
  dsimp only
  split
  · exact .bind (checkCode_isQuiet logging _ _) fun _ => .pure _
  · split
    · exact .throw _
    · exact .throw _
    · exact .bind (checkCode_isQuiet logging _ _) fun _ => .pure _

end

theorem configuration_of_analyzeAll {c : Configuration} {units : List SourceUnit} {symbols : SymbolIndex}
    {analysed : List Subject} {failed : Bool} {w w' : Workspace}
    (done : analyzeAll c symbols units w = .ok (analysed, failed) w') :
    ∀ s ∈ analysed, s.configuration = c := by
  induction units generalizing symbols analysed failed w w' with
  | nil =>
    cases done
    exact List.forall_mem_nil _
  | cons unit rest ih =>
    obtain ⟨result, w₁, -, done⟩ := Build.bind_eq_ok done
    obtain ⟨errors, symbols₁⟩ := result
    obtain ⟨others, w₂, later, done⟩ := Build.bind_eq_ok done
    obtain ⟨analysed', failed'⟩ := others
    have known := ih later
    generalize unit.tree = parsed at done
    rcases errors with _ | _ | n
    · cases done
      exact known
    · cases parsed with
      | error report =>
        cases done
        exact known
      | ok tree =>
        cases done
        exact List.forall_mem_cons.mpr ⟨rfl, known⟩
    · cases done
      exact known

theorem generateAll_isQuiet (b : Backend) (t : Target) {subjects : List Subject}
    (logging : ∀ s ∈ subjects, s.configuration.sink = .logging) (outputs : Outputs) :
    Build.IsQuiet (generateAll b t subjects outputs) := by
  induction subjects generalizing outputs with
  | nil => exact .pure _
  | cons s rest ih =>
    obtain ⟨here, later⟩ := List.forall_mem_cons.mp logging
    exact .bind (generate_isQuiet b t here outputs) fun outputs => ih later outputs

theorem scriptToolchain_isQuiet (b : Backend) : (scriptToolchain b).IsQuiet := by
  intro environment logging
  have named (text : String) : LogRecord.IsQuiet
      ⟨.debug, s!"module={environment.configuration.moduleName}" ++ text⟩ := by
    refine LogRecord.isQuiet_of_head 'm' ?_ (by decide)
    simp only [String.toList_append, List.append_assoc]
    rfl
  unfold scriptToolchain
  dsimp only
  split
  · exact .throw _
  · refine .bind (.sources environment) fun units => ?_
    refine .andThen (analyzeAll_isQuiet logging _ _) fun w result w' done => ?_
    obtain ⟨analysed, failed⟩ := result
    have configured := configuration_of_analyzeAll done
    have logging' : ∀ s ∈ analysed, s.configuration.sink = .logging := by
      intro s member
      rw [configured s member, logging]
    dsimp only
    split
    · exact .bind (.record (named " analysis failed")) fun _ => .pure _
    · refine .bind (generateAll_isQuiet b _ logging' _) fun outputs => .bind (.record ?_) fun _ => .pure _
      simpa only [String.append_assoc] using named _

theorem Toolchain.ending_isQuiet (outcome : Environment → Except Failure (Option Outputs)) :
    (Toolchain.ending outcome).IsQuiet := by
  intro environment logging
  unfold Toolchain.ending
  cases outcome environment with
  | ok result => exact .pure result
  | error e => exact .throw e

theorem gatherClasspath_isQuiet (boot : Option (List String)) (loaded : Option (List Location))
    (extra : List Path) : Build.IsQuiet (gatherClasspath boot loaded extra) := by
  intro w
  have warned : w.Extends IsSilent (w.warned boot) := by
    unfold Workspace.warned
    refine .recorded ?_
    split
    · exact .nil
    · exact List.forall_mem_singleton.mpr (LogRecord.isQuiet_of_level (by decide))
  rw [gatherClasspath_run]
  split <;> exact warned

theorem writeOutput_isQuiet (directory : Path) (o : OutputFile) : Build.IsQuiet (writeOutput directory o) := by
  refine .bind (.change _) fun _ => .bind (.change _) fun _ => .record ?_
  refine LogRecord.isQuiet_of_head 'w' ?_ (by decide)
  simp only [String.toList_append]
  rfl

section
variable {c : Compiler} (quiet : c.toolchain.IsQuiet)

include quiet

theorem Compiler.deliver_isQuiet (source directory : Path) {environment : Environment}
    (logging : environment.configuration.sink = .logging) :
    Build.IsQuiet (c.deliver source directory environment) := by
  have produces : Build.IsQuiet (c.produce source environment) :=
    Build.IsQuiet.iff_maintains.mpr fun start =>
      c.produce_maintains source (Build.IsQuiet.iff_maintains.mp (quiet environment logging) start)
  refine .bind (produces.guarded source) fun result => ?_
  obtain ⟨plugin, outputs⟩ := result
  dsimp only
  split
  · exact .throw _
  · exact .bind (.forM fun o => writeOutput_isQuiet directory o) fun _ => .pure _

theorem Compiler.compile_disposes {source : Path} {w : Workspace} {e : Environment}
    (made : c.environmentIn source w = .ok e) (directory : Path) :
    let w' := finalState (c.compile source directory w)
    (∃ added, IsLifetime source.text 1 added ∧ w'.log = w.log ++ added) ∧
      w'.disposed = w.disposed ++ [true] ∧ w'.scope = w.scope := by
  obtain ⟨root, unit, -, -, rfl⟩ := environmentIn_eq_ok made
  rw [compile_eq, made]
  dsimp only
  rw [finalState_leaving]
  generalize ended : finalState (c.deliver source directory _ _) = w₁
  obtain ⟨n, inner, ⟨rfl, inside⟩, log, disposed, scope⟩ :=
    ended ▸ deliver_isQuiet quiet source directory rfl ((begun source w).opened _)
  replace disposed : w₁.disposed = w.disposed ++ [false] := by
    rw [disposed]
    exact List.append_nil _
  rw [Workspace.leave_of_one (scope.trans rfl)]
  have first : AllQuiet [⟨.info, s!"compile: {source}"⟩] :=
    List.forall_mem_singleton.mpr (LogRecord.isQuiet_of_level (by decide))
  refine ⟨⟨_, .one c.classpath.length first inside, ?_⟩, ?_, rfl⟩
  · show w₁.log ++ [disposal source.text] = _
    rw [log]
    simp [Workspace.opened, begun, configuration]
  · show w₁.disposed.set w.disposed.length true = _
    rw [disposed]
    simp

/-- A compilation makes no environment, or one with the name of its source, which it tells of from its making
to the end, the last that it records. -/
theorem Compiler.compile_extends (source directory : Path) (w : Workspace) :
    w.Extends (IsLifetime source.text) (finalState (c.compile source directory w)) := by
  cases made : c.environmentIn source w with
  | error e =>
    have first : AllQuiet [⟨.info, s!"compile: {source}"⟩] :=
      List.forall_mem_singleton.mpr (LogRecord.isQuiet_of_level (by decide))
    rw [compile_eq, made]
    exact ⟨0, _, .none first, rfl, (List.append_nil _).symm, rfl⟩
  | ok environment =>
    obtain ⟨⟨added, lifetime, log⟩, disposed, scope⟩ := compile_disposes quiet made directory
    exact ⟨1, added, lifetime, log, disposed, scope⟩

theorem Batch.step_maintains (start : Workspace) (output source : Path) (results : List Compiled) :
    Build.Maintains (start.Extends TakeTurns) ((step c output source).run results) := by
  intro w before
  have lived : start.Extends TakeTurns (finalState (c.compile source output w)) :=
    before.trans (fun turns lifetime => turns.append lifetime.takeTurns)
      (Compiler.compile_extends quiet source output w)
  rw [step_run]
  split
  · rename_i compiled w₁ ended
    rw [ended] at lived
    have quiet' : AllQuiet [⟨.info, s!"compiled {source} -> {compiled.qualifiedName}"⟩] :=
      List.forall_mem_singleton.mpr (LogRecord.isQuiet_of_level (by decide))
    exact lived.trans (fun turns silent => turns.append silent.takeTurns) (.recorded quiet')
  · rename_i ended
    rwa [ended] at lived

end

/-- The environments of a batch take turns, whatever comes of the batch. -/
theorem Batch.run_extends {batch : Batch} (quiet : batch.toolchain.IsQuiet) (input output manifestPath : Path)
    (extra : List Path) (w : Workspace) :
    w.Extends TakeTurns (finalState (batch.run input output manifestPath extra w)) := by
  have quietly {α : Type} {task : Build α} (quiet : task.IsQuiet) : task.Maintains (w.Extends TakeTurns) :=
    quiet.maintains (fun turns silent => turns.append silent.takeTurns) w
  have maintains : (batch.run input output manifestPath extra).Maintains (w.Extends TakeTurns) := by
    refine .bind (quietly (gatherClasspath_isQuiet _ _ extra)) fun classpath => ?_
    refine .bind (quietly (.record ?_)) fun _ => ?_
    · refine LogRecord.isQuiet_of_head 'c' ?_ (by decide)
      simp only [String.toList_append, List.append_assoc]
      rfl
    refine .bind (quietly (.change _)) fun _ => ?_
    refine .bind (Search.visit_maintains (fun source results => ?_) _ []) fun visited => ?_
    · exact step_maintains (c := ⟨classpath, batch.template, batch.toolchain⟩) quiet w output source results
    obtain ⟨⟨⟩, results⟩ := visited
    refine .bind (quietly (.change _)) fun _ => .bind (quietly (.record ?_)) fun _ => .pure _
    exact LogRecord.isQuiet_of_level (by decide)
  exact maintains w (.refl .nil)

theorem Environment.unusable_of_disposed {e : Environment} {w v : Workspace} {before : List Bool}
    (new : e.number = before.length) (disposed : w.disposed = before ++ [true])
    (later : w.disposed <+: v.disposed) :
    e.isDisposed v = .ok true v ∧ e.sources v = .error (.toolchain .disposed) v := by
  obtain ⟨more, whole⟩ := later
  have there : v.disposed.getD e.number false = true := by
    rw [← whole, disposed, new]
    simp
  refine ⟨congrArg (EStateM.Result.ok · v) there, ?_⟩
  rw [Environment.sources_run, there]
  rfl

/-- What a compilation does with the environment that it has made: its toolchain is asked for nothing else,
in the end it is disposed of, and the last record tells of that. From then on it cannot be used. -/
structure Compiler.Disposes (c : Compiler) (source directory : Path) (w : Workspace) (e : Environment)
    (w' : Workspace) : Prop where
  new : e.number = w.disposed.length
  asked : ∀ other : Toolchain, other e = c.toolchain e →
    Compiler.compile { c with toolchain := other } source directory w = c.compile source directory w
  told : ∃ added, IsLifetime source.text 1 added ∧ w'.log = w.log ++ added
  disposed : w'.disposed = w.disposed ++ [true]
  unusable : ∀ v : Workspace, w'.disposed <+: v.disposed →
    e.isDisposed v = .ok true v ∧ e.sources v = .error (.toolchain .disposed) v

theorem Compiler.disposes_of_made {c : Compiler} (quiet : c.toolchain.IsQuiet) {source : Path} {w : Workspace}
    {e : Environment} (made : c.environmentIn source w = .ok e) (directory : Path) :
    c.Disposes source directory w e (finalState (c.compile source directory w)) := by
  have new : e.number = w.disposed.length := by
    obtain ⟨root, unit, -, -, rfl⟩ := environmentIn_eq_ok made
    rfl
  obtain ⟨told, disposed, -⟩ := compile_disposes quiet made directory
  refine ⟨new, fun other same => ?_, told, disposed, fun v => Environment.unusable_of_disposed new disposed⟩
  have made' : environmentIn { c with toolchain := other } source w = .ok e := made
  rw [compile_eq, compile_eq, made, made']
  have alike : deliver { c with toolchain := other } source directory e = c.deliver source directory e := by
    unfold deliver produce
    dsimp only
    rw [same]
  dsimp only
  rw [alike]

/-- Whatever comes of a compilation, it makes one environment at most, and if one, then it disposes of it at
its end and tells of that in its last record. So the environments of a batch take turns. An environment that
was disposed of gives no sources. Toolchains must not make environments or tell of any themselves; the one
for scripts does not, nor does one that only comes to an outcome. -/
theorem disposed_on_every_path {toolchain : Toolchain} (quiet : toolchain.IsQuiet ∨
      (∃ b, toolchain = scriptToolchain b) ∨ ∃ outcome, toolchain = .ending outcome) :
    (∀ (c : Compiler) source directory (w : Workspace), c.toolchain = toolchain →
      w.Extends (IsLifetime source.text) (finalState (c.compile source directory w)) ∧
      (∀ failure, c.environmentIn source w = .error failure →
        w.Extends IsSilent (finalState (c.compile source directory w))) ∧
      ∀ e, c.environmentIn source w = .ok e →
        c.Disposes source directory w e (finalState (c.compile source directory w))) ∧
    ∀ (batch : Batch) input output manifestPath extra (w : Workspace), batch.toolchain = toolchain →
      w.Extends TakeTurns (finalState (batch.run input output manifestPath extra w)) := by
  have quiet : toolchain.IsQuiet := by
    rcases quiet with quiet | ⟨b, rfl⟩ | ⟨outcome, rfl⟩
    · exact quiet
    · exact scriptToolchain_isQuiet b
    · exact Toolchain.ending_isQuiet outcome
  constructor
  · rintro c source directory w rfl
    refine ⟨Compiler.compile_extends quiet source directory w, fun failure unmade => ?_, fun e made =>
      Compiler.disposes_of_made quiet made directory⟩
    rw [Compiler.compile_eq, unmade]
    exact .recorded (List.forall_mem_singleton.mpr (LogRecord.isQuiet_of_level (by decide)))
  · rintro batch input output manifestPath extra w rfl
    exact Batch.run_extends quiet input output manifestPath extra w

/-- A toolchain that crashes. -/
def crashing : Toolchain := .ending fun _ => .error (.crash "stopped")

def crashingCompiler : Compiler := ⟨[], .plugin, crashing⟩

def crashed : EStateM.Result Failure Workspace Compiled :=
  crashingCompiler.compile (Path.ofString "in/a.plugin.py") (Path.ofString "out") Compiler.emptyScript

theorem crash_disposed : ∃ e w',
    crashingCompiler.environmentIn (Path.ofString "in/a.plugin.py") Compiler.emptyScript = .ok e ∧
    crashed = .error (.crash "stopped") w' ∧
    w'.log = [⟨.info, "compile: in/a.plugin.py"⟩, creation "in/a.plugin.py" 0, disposal "in/a.plugin.py"] ∧
    w'.disposed = [true] ∧ e.sources w' = .error (.toolchain .disposed) w' := by
  have made : (crashingCompiler.environmentIn (Path.ofString "in/a.plugin.py")
      Compiler.emptyScript).toBool = true := by decide +kernel
  cases environment : crashingCompiler.environmentIn (Path.ofString "in/a.plugin.py") Compiler.emptyScript with
  | error failure =>
    rw [environment] at made
    exact nomatch made
  | ok e =>
    obtain ⟨w', failed⟩ :=
      failureOf?_eq_some (show failureOf? crashed = some (.crash "stopped") by decide +kernel)
    have log : (finalState crashed).log =
      [⟨.info, "compile: in/a.plugin.py"⟩, creation "in/a.plugin.py" 0, disposal "in/a.plugin.py"] := by
      decide +kernel
    have ends : ∃ outcome, crashing = .ending outcome := ⟨_, rfl⟩
    obtain ⟨-, -, disposes⟩ := (disposed_on_every_path (.inr (.inr ends))).1 crashingCompiler
      (Path.ofString "in/a.plugin.py") (Path.ofString "out") Compiler.emptyScript rfl
    have disposes := disposes e environment
    rw [show Compiler.compile _ _ _ _ = _ from failed] at disposes
    rw [failed] at log
    exact ⟨e, w', rfl, failed, log, disposes.disposed, (disposes.unusable w' List.prefix_rfl).2⟩

end PluginBuild
