import PluginBuild.Proofs.Delivery

/-!
Writing generated files as a change of the files alone.
-/

namespace PluginBuild

open PluginBuild.Files PluginBuild.Text

namespace Files.FileTree

def putOutput (t : FileTree) (directory : Path) (o : OutputFile) : Change :=
  match t.ensurePath (directory.child o.path).parent with
  | .error e t => .error e t
  | .ok () t => t.write (directory.child o.path).text o.content

/-- Generated files are written one after the other, up to the first that fails. -/
def putOutputs (t : FileTree) (directory : Path) : Outputs → Change
  | [] => .ok () t
  | o :: rest =>
    match t.putOutput directory o with
    | .error e t => .error e t
    | .ok () t => t.putOutputs directory rest

end Files.FileTree

theorem writeOutput_run (directory : Path) (o : OutputFile) (w : Workspace) :
    ∃ log, writeOutput directory o w = match w.files.putOutput directory o with
      | .ok _ files => .ok () { w with files, log }
      | .error e files => .error (.file e) { w with files, log } := by
  unfold writeOutput FileTree.putOutput
  rw [Build.bind_run, Build.change_run]
  cases w.files.ensurePath (directory.child o.path).parent with
  | error e t => exact ⟨w.log, rfl⟩
  | ok _ t =>
    dsimp only
    rw [Build.bind_run, Build.change_run]
    cases t.write (directory.child o.path).text o.content with
    | error e t => exact ⟨w.log, rfl⟩
    | ok _ t => exact ⟨_, rfl⟩

theorem writeOutputs_run (directory : Path) (outputs : Outputs) (w : Workspace) :
    ∃ log, outputs.forM (writeOutput directory) w = match w.files.putOutputs directory outputs with
      | .ok _ files => .ok () { w with files, log }
      | .error e files => .error (.file e) { w with files, log } := by
  induction outputs generalizing w with
  | nil => exact ⟨w.log, rfl⟩
  | cons o rest ih =>
    obtain ⟨log, here⟩ := writeOutput_run directory o w
    rw [Build.forM_cons_run, here, FileTree.putOutputs]
    cases w.files.putOutput directory o with
    | error e t => exact ⟨log, rfl⟩
    | ok _ t =>
      obtain ⟨log', later⟩ := ih { w with files := t, log }
      exact ⟨log', later⟩

end PluginBuild
