import PluginBuild.Classpath
import PluginBuild.Proofs.Tasks

/-!
What gathering a classpath comes to: its entries depend on the files by the current directory only, and
whatever comes of it, the log tells where the boot locations are missing.
-/

namespace PluginBuild

def bootWarning : LogRecord :=
  ⟨.warning, "Boot class path is not supported, must be supplied on the command line"⟩

def Workspace.warned (w : Workspace) (boot : Option (List String)) : Workspace :=
  { w with log := w.log ++ if boot.isSome then [] else [bootWarning] }

variable (boot : Option (List String)) (loaded : Option (List Location)) (extra : List Path)

theorem gatherClasspath_run (w : Workspace) : gatherClasspath boot loaded extra w =
    match entriesFrom boot loaded extra w.files.here with
    | .ok entries => .ok entries (w.warned boot)
    | .error e => .error (.classpath e) (w.warned boot) := by
  have told : warnOfBoot boot w = .ok () (w.warned boot) := by
    cases boot with
    | none => rfl
    | some boot => simp [warnOfBoot, Workspace.warned, Pure.pure, EStateM.pure]
  have here : (w.warned boot).files.here = w.files.here := rfl
  rw [gatherClasspath, Build.bind_run, told]
  dsimp only [bind, EStateM.bind, get, getThe, MonadStateOf.get, EStateM.get]
  rw [here]
  cases entriesFrom boot loaded extra w.files.here <;> rfl

theorem gatherClasspath_reads : OnlyReads (gatherClasspath boot loaded extra) := by
  constructor
  · intro w
    rw [gatherClasspath_run]
    cases entriesFrom boot loaded extra w.files.here <;> exact ⟨rfl, rfl, rfl⟩
  · intro w e w' failed
    rw [gatherClasspath_run] at failed
    cases found : entriesFrom boot loaded extra w.files.here with
    | ok entries =>
      rw [found] at failed
      cases failed
    | error fault =>
      rw [found] at failed
      cases failed
      rintro ⟨path, source, same⟩
      cases same

end PluginBuild
