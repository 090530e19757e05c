import PluginBuild.Proofs.Tasks

/-!
The environment of a compilation. Whether there is one depends on the files alone. A compilation comes to
what is delivered with it, and what is left to do in its scope follows on that.
-/

namespace PluginBuild

open PluginBuild.Files PluginBuild.Text

def guardedFailure (source : Path) : Failure → Failure
  | .toolchain e => .compilation ⟨.toolchain e, some source⟩
  | e => e

section
variable {α : Type} {source : Path} {task : Build α} {w w' : Workspace}

theorem guarded_run (source : Path) (task : Build α) (w : Workspace) :
    guarded source task w = match task w with
      | .ok a w => .ok a w
      | .error e w => .error (guardedFailure source e) w := by
  unfold guarded
  rw [Build.bind_run, Build.outcome_run]
  cases task w with
  | ok a w => rfl
  | error e w => cases e <;> rfl

theorem guarded_ok {a : α} (done : guarded source task w = .ok a w') : task w = .ok a w' := by
  rw [guarded_run] at done
  split at done
  · rename_i ended
    rw [ended, done]
  · exact nomatch done

theorem isArtifactMissing_of_guardedFailure {e : Failure}
    (missing : (guardedFailure source e).IsArtifactMissing) : e.IsArtifactMissing := by
  cases e with
  | toolchain fault => exact nomatch missing
  | _ => exact missing

theorem guarded_reads (source : Path) (reads : OnlyReads task) : OnlyReads (guarded source task) := by
  constructor
  · intro w
    have same := reads.agrees w
    rw [guarded_run]
    cases ended : task w <;> rwa [ended] at same
  · intro w e w' failed
    rw [guarded_run] at failed
    split at failed
    · exact nomatch failed
    · rename_i ended
      cases failed
      exact fun missing => reads.failure w _ _ ended (isArtifactMissing_of_guardedFailure missing)

end

theorem Files.FileTree.absolute_of_absolute? {t : FileTree} {p q : Path} (here : t.absolute? p = .ok q) :
    t.absolute p = q := by
  unfold FileTree.absolute? at here
  split at here
  · rename_i absolute
    cases here
    exact if_pos absolute
  · cases place : t.here with
    | error e =>
      rw [place] at here
      exact nomatch here
    | ok current =>
      rw [place] at here
      exact Except.ok.inj here

def unitAt (template : Template) (files : FileTree) (path : Path) : Except Failure SourceUnit :=
  match files.read path.text with
  | .error .nullCharacter => .error (.file .nullCharacter)
  | .error e => .error (.toolchain (.unreadable path e))
  | .ok bytes => SourceUnit.ofBytes files.platform.codec? path (template.isScript path.name) bytes

theorem load_run (template : Template) (path : Path) (w : Workspace) :
    SourceUnit.load template path w = match unitAt template w.files path with
      | .ok unit => .ok unit w
      | .error e => .error e w := by
  unfold SourceUnit.load unitAt
  rw [Build.get_run]
  cases w.files.read path.text with
  | error e => cases e <;> rfl
  | ok bytes =>
    dsimp only
    cases SourceUnit.ofBytes w.files.platform.codec? path (template.isScript path.name) bytes <;> rfl

theorem bytes_of_ofBytes {codec? : String → Option Codec} {path : Path} {isScript : Bool} {bytes : Bytes}
    {unit : SourceUnit} (made : SourceUnit.ofBytes codec? path isScript bytes = .ok unit) :
    unit.bytes = bytes := by
  unfold SourceUnit.ofBytes at made
  split at made
  · exact nomatch made
  · split at made
    · exact nomatch made
    · cases made
      rfl

theorem unitAt_eq_ok {template : Template} {files : FileTree} {path : Path} {unit : SourceUnit} :
    unitAt template files path = .ok unit ↔ files.read path.text = .ok unit.bytes ∧
      SourceUnit.ofBytes files.platform.codec? path (template.isScript path.name) unit.bytes = .ok unit := by
  unfold unitAt
  constructor
  · intro loaded
    split at loaded
    · exact nomatch loaded
    · exact nomatch loaded
    · rename_i bytes read
      obtain rfl := bytes_of_ofBytes loaded
      exact ⟨read, loaded⟩
  · rintro ⟨read, made⟩
    rw [read]
    exact made

theorem not_isArtifactMissing_of_unitAt {template : Template} {files : FileTree} {path : Path} {e : Failure}
    (failed : unitAt template files path = .error e) : ¬ e.IsArtifactMissing := by
  rintro ⟨fileName, source, rfl⟩
  unfold unitAt at failed
  split at failed
  · exact nomatch failed
  · exact nomatch failed
  · unfold SourceUnit.ofBytes at failed
    split at failed
    · rename_i e decoded
      cases e <;> exact nomatch failed
    · split at failed <;> exact nomatch failed

/-- The records of the making and of the end of an environment. -/
def creation (name : String) (entries : Nat) : LogRecord :=
  ⟨.debug, s!"environment created for {name} ({entries} classpath entries)"⟩

def disposal (name : String) : LogRecord := ⟨.debug, s!"environment disposed for {name}"⟩

def begun (source : Path) (w : Workspace) : Workspace :=
  { w with log := w.log ++ [⟨.info, s!"compile: {source}"⟩] }

def Workspace.opened (w : Workspace) (c : Configuration) : Workspace :=
  { w with
    disposed := w.disposed ++ [false]
    scope := [⟨w.disposed.length, c.moduleName⟩]
    log := w.log ++ [creation c.moduleName c.classpath.length] }

theorem create_run {c : Configuration} {path : Path} (one : c.sources = [path]) (w : Workspace) :
    Environment.create c { w with scope := [] } = match unitAt c.template w.files path with
      | .error e => .error e { w with scope := [] }
      | .ok unit => .ok ⟨w.disposed.length, c, [unit], .ofEntries c.classpath⟩ (w.opened c) := by
  unfold Environment.create
  rw [one, List.mapM_cons, List.mapM_nil, Build.bind_run, Build.bind_run, load_run]
  cases unitAt c.template w.files path <;> rfl

/-- A task's end with what was left to do in its scope done. -/
def leaving {α : Type} (outer : List Disposal) :
    EStateM.Result Failure Workspace α → EStateM.Result Failure Workspace α
  | .ok a w => .ok a (w.leave outer)
  | .error e w => .error e (w.leave outer)

theorem inScope_run {α : Type} (task : Build α) (w : Workspace) :
    Build.inScope task w = leaving w.scope (task { w with scope := [] }) := by
  unfold Build.inScope
  cases task { w with scope := [] } <;> rfl

theorem finalState_leaving {α : Type} (outer : List Disposal) (ended : EStateM.Result Failure Workspace α) :
    finalState (leaving outer ended) = (finalState ended).leave outer := by
  cases ended <;> rfl

@[simp] theorem Workspace.leave_files (w : Workspace) (outer : List Disposal) :
    (w.leave outer).files = w.files := by
  obtain ⟨files, log, diagnostics, disposed, scope⟩ := w
  have disposals : ∀ w : Workspace, (scope.foldl Workspace.dispose w).files = w.files := by
    induction scope with
    | nil => exact fun w => rfl
    | cons d rest ih => exact fun w => (ih (w.dispose d)).trans rfl
  exact disposals _

theorem Workspace.leave_of_one {w : Workspace} {d : Disposal} (one : w.scope = [d]) (outer : List Disposal) :
    w.leave outer = { w.dispose d with scope := outer } := by
  rw [Workspace.leave, one]
  rfl

namespace Compiler

def environmentFor (c : Compiler) (source : Path) (files : FileTree) (number : Nat) :
    Except Failure Environment :=
  match files.absolute? source with
  | .error e => .error (.file e)
  | .ok root => match unitAt c.template files root with
    | .error e => .error (guardedFailure source e)
    | .ok unit => .ok ⟨number, c.configuration source root, [unit], .ofEntries c.classpath⟩

/-- The environment that a compilation makes in a workspace. -/
def environmentIn (c : Compiler) (source : Path) (w : Workspace) : Except Failure Environment :=
  c.environmentFor source w.files w.disposed.length

variable {c : Compiler} {source : Path} {w : Workspace}

/-- A compilation fails where there is no environment for it, and otherwise ends as what is delivered with
that does. -/
theorem compile_eq (c : Compiler) (source directory : Path) (w : Workspace) :
    c.compile source directory w = match c.environmentIn source w with
      | .error e => .error e (begun source w)
      | .ok environment => leaving w.scope
          (c.deliver source directory environment ((begun source w).opened environment.configuration)) := by
  have run : c.compile source directory w = leaving w.scope ((do
      let root ← Build.ask (·.absolute? source)
      let environment ← guarded source (Environment.create (c.configuration source root))
      c.deliver source directory environment : Build Compiled) { begun source w with scope := [] }) := by
    unfold Compiler.compile
    rw [Build.bind_run]
    exact inScope_run _ (begun source w)
  rw [run, Build.bind_run, Build.ask_run, environmentIn, environmentFor,
    show ({ begun source w with scope := [] } : Workspace).files = w.files from rfl]
  cases w.files.absolute? source with
  | error e => rfl
  | ok root =>
    dsimp only
    rw [Build.bind_run, guarded_run, create_run rfl (begun source w),
      show unitAt (c.configuration source root).template (begun source w).files root =
        unitAt c.template w.files root from rfl]
    cases unitAt c.template w.files root <;> rfl

theorem environmentIn_eq_ok {environment : Environment} (made : c.environmentIn source w = .ok environment) :
    ∃ root unit, w.files.absolute? source = .ok root ∧ unitAt c.template w.files root = .ok unit ∧
      environment = ⟨w.disposed.length, c.configuration source root, [unit], .ofEntries c.classpath⟩ := by
  unfold environmentIn environmentFor at made
  split at made
  · exact nomatch made
  · rename_i root here
    split at made
    · exact nomatch made
    · rename_i unit loaded
      exact ⟨root, unit, here, loaded, (Except.ok.inj made).symm⟩

theorem not_isArtifactMissing_of_environmentIn {e : Failure} (failed : c.environmentIn source w = .error e) :
    ¬ e.IsArtifactMissing := by
  unfold environmentIn environmentFor at failed
  split at failed
  · cases failed
    exact fun ⟨_, _, same⟩ => nomatch same
  · split at failed
    · rename_i e unloaded
      cases failed
      exact fun missing =>
        not_isArtifactMissing_of_unitAt unloaded (isArtifactMissing_of_guardedFailure missing)
    · exact nomatch failed

end Compiler

end PluginBuild
