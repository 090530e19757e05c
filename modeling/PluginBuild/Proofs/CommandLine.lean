import PluginBuild.CommandLine.Run
import PluginBuild.Proofs.Invariants
import PluginBuild.Proofs.Manifest
import PluginBuild.Template.Catalogue

/-!
Runs of the command line. Until the settings, the template and the classpath that it asks for are there,
a run changes nothing but what the import of the template does. From then on a run that fails leaves the
manifest alone, and one that ends well has written it: a line for each script that it counts.
-/

namespace PluginBuild

open PluginBuild.Files PluginBuild.Text

theorem count_lines {names : List String} (absent : ∀ name ∈ names, '\n' ∉ name.toList) :
    (String.join (names.map (· ++ "\n"))).toList.count '\n' = names.length := by
  induction names with
  | nil => rfl
  | cons name rest ih =>
    have later := ih fun name member => absent name (List.mem_cons_of_mem _ member)
    have none := List.count_eq_zero_of_not_mem (absent name List.mem_cons_self)
    rw [List.map_cons, String.join_cons, String.toList_append, String.toList_append,
      List.count_append, List.count_append, none, later, List.length_cons]
    exact (Nat.add_comm ..).trans (congrArg _ (Nat.zero_add _))

namespace Batch

variable {b : Backend} {template : Template} {context : ExecutionContext} {suffix : String}
  {depth : Nat} {input output file : Path} {extra : List Path} {w w' : Workspace}

theorem manifest_lines_of_ok {results : List Compiled}
    (done : (Batch.mk template context (scriptToolchain b) suffix depth).run input output file
      extra w = .ok results w') :
    ∃ text, w'.files.read file.text = .ok (encodeUtf8 text) ∧
      split '\n' text = manifest results ++ [""] ∧ text.toList.count '\n' = results.length := by
  obtain ⟨classpath, w₀, start, sources, t, -, -, -, compiles, wrote⟩ := run_ok done
  have compiles : CompilesAll (scriptCompiler b classpath template) output start sources results t :=
    compiles
  have unbroken := compiles.unbroken
  obtain ⟨d, -, -, located⟩ := FileTree.write_ok wrote
  refine ⟨String.join ((manifest results).map (· ++ "\n")), ?_, split_lines unbroken, ?_⟩
  · rw [FileTree.read, located]
    rfl
  · rw [count_lines unbroken, manifest, List.length_map]

end Batch

namespace CommandLine

variable {files : FileTree} {line : List String} {importer : Importer} {i : Interpreter} {t : Toolchain}
  {w : Workspace}

/-- A failure tells its exit code: that of a wrong command line, or what an import exits with. -/
def RunError.exitCode : RunError → Nat
  | .usage _ => 2
  | .template (.noImport (.exit code _)) => code
  | _ => 1

namespace Request

variable {r : Request} {s : Settings} {template : Template} {i' : Interpreter} {w₁ w' : Workspace}
  {results : List Compiled}

/-- What there is when the template of a build has been looked for; its import may have changed it. -/
def imported (r : Request) (importer : Importer) (i : Interpreter) (w : Workspace) : Workspace :=
  match r.settings w.files with
  | .error _ => w
  | .ok s => finalState (Template.load importer i s.template w)

/-- The settings, the template and the classpath that a build asks for are there. -/
structure IsReady (r : Request) (importer : Importer) (i : Interpreter) (w : Workspace) (s : Settings)
    (template : Template) (i' : Interpreter) : Prop where
  settings : r.settings w.files = .ok s
  template : Template.load importer i s.template w = .ok (template, i') (r.imported importer i w)
  classpath : ∃ classpath w₀, assembleClasspath i'.context (splitClasspath r.classpath)
    (r.imported importer i w) = .ok classpath w₀

/-- A build comes to its end with these results. -/
def Completes (r : Request) (importer : Importer) (i : Interpreter) (t : Toolchain) (w : Workspace)
    (results : List Compiled) (w' : Workspace) : Prop :=
  ∃ s, r.settings w.files = .ok s ∧ r.run s importer i t w = (.ok results, w')

def outcome (r : Request) (s : Settings) (template : Template) (i : Interpreter) (t : Toolchain)
    (w : Workspace) : EStateM.Result Failure Workspace (List Compiled) :=
  (Batch.mk template i.context t s.suffix s.depth).run r.input r.output r.manifest
    (splitClasspath r.classpath) w

/-- How a build ends: for want of its settings or of its template, or as its batch does. -/
inductive Ends (r : Request) (importer : Importer) (i : Interpreter) (t : Toolchain) (w : Workspace) :
    Ending → FileTree → Prop
  | unsettled {e : SettingsError} {ending : Ending} (failed : r.settings w.files = .error (.settings e))
    (code : ending.exitCode = 1) : Ends r importer i t w ending w.files
  | unloaded {s : Settings} {e : TemplateError} {w₁ : Workspace} {ending : Ending}
    (settings : r.settings w.files = .ok s) (failed : Template.load importer i s.template w = .error e w₁)
    (code : ending.exitCode = RunError.exitCode (.template e)) : Ends r importer i t w ending w₁.files
  | failed {s : Settings} {template : Template} {i' : Interpreter} {w₁ w' : Workspace} {f : Failure}
    {ending : Ending} (settings : r.settings w.files = .ok s)
    (loaded : Template.load importer i s.template w = .ok (template, i') w₁)
    (failed : r.outcome s template i' t w₁ = .error f w') (code : ending.exitCode = 1) :
    Ends r importer i t w ending w'.files
  | completed {s : Settings} {template : Template} {i' : Interpreter} {w₁ w' : Workspace}
    {results : List Compiled} (settings : r.settings w.files = .ok s)
    (loaded : Template.load importer i s.template w = .ok (template, i') w₁)
    (done : r.outcome s template i' t w₁ = .ok results w') :
    Ends r importer i t w ⟨0, s!"Compiled {results.length} plugin(s).\n", none⟩ w'.files

theorem run_of_loaded (loaded : Template.load importer i s.template w = .ok (template, i') w₁) :
    r.run s importer i t w = match r.outcome s template i' t w₁ with
      | .ok results w => (.ok results, w)
      | .error e w => (.error (.build e), w) := by
  rw [run, loaded]
  rfl

theorem IsReady.unloaded {e : TemplateError} (ready : r.IsReady importer i w s template i')
    {s' : Settings} (settings : r.settings w.files = .ok s') :
    Template.load importer i s'.template w ≠ .error e w₁ := by
  obtain rfl := Except.ok.inj (ready.settings.symm.trans settings)
  rw [ready.template]
  exact fun same => nomatch same

theorem completes_iff : r.Completes importer i t w results w' ↔
    ∃ s template i' w₁, r.settings w.files = .ok s ∧
      Template.load importer i s.template w = .ok (template, i') w₁ ∧
      r.outcome s template i' t w₁ = .ok results w' := by
  constructor
  · rintro ⟨s, settings, ran⟩
    cases loaded : Template.load importer i s.template w with
    | error e w₁ =>
      rw [run, loaded] at ran
      exact nomatch ran
    | ok found w₁ =>
      obtain ⟨template, i'⟩ := found
      rw [run_of_loaded loaded] at ran
      split at ran
      · rename_i done
        cases ran
        exact ⟨s, template, i', w₁, settings, loaded, done⟩
      · exact nomatch ran
  · rintro ⟨s, template, i', w₁, settings, loaded, done⟩
    refine ⟨s, settings, ?_⟩
    rw [run_of_loaded loaded, done]

end Request

namespace Request.Ends

variable {r : Request} {ending : Ending} {after : FileTree}

theorem counts {b : Backend} (ends : r.Ends importer i (scriptToolchain b) w ending after)
    {results : List Compiled} {w' : Workspace}
    (completes : r.Completes importer i (scriptToolchain b) w results w') :
    ending.output = s!"Compiled {results.length} plugin(s).\n" ∧
      ∃ text, after.read r.manifest.text = .ok (encodeUtf8 text) ∧
        split '\n' text = PluginBuild.manifest results ++ [""] ∧
        text.toList.count '\n' = results.length := by
  obtain ⟨s, template, i', w₁, settings, loaded, done⟩ := completes_iff.mp completes
  cases ends with
  | unsettled failed => exact nomatch settings.symm.trans failed
  | unloaded settings' failed =>
    obtain rfl := Except.ok.inj (settings.symm.trans settings')
    exact nomatch loaded.symm.trans failed
  | failed settings' loaded' failed =>
    obtain rfl := Except.ok.inj (settings.symm.trans settings')
    cases loaded.symm.trans loaded'
    exact nomatch done.symm.trans failed
  | completed settings' loaded' done' =>
    obtain rfl := Except.ok.inj (settings.symm.trans settings')
    cases loaded.symm.trans loaded'
    cases done.symm.trans done'
    exact ⟨rfl, Batch.manifest_lines_of_ok done⟩

end Request.Ends

theorem ofClass_ne_noImport (c : TemplateClass) (e : ImportError) :
    Template.ofClass c ≠ .error (.noImport e) := by
  unfold Template.ofClass Marking.read
  split
  · exact nofun
  · split <;> exact nofun

/-- A reference is refused before or after the import that it asks for, or the import fails. -/
theorem load_cases (importer : Importer) (i : Interpreter) (reference : String) (w : Workspace) :
    (∃ e, Template.load importer i reference w = .error e w ∧ ∀ e', e ≠ .noImport e') ∨
    (∃ module name e w₁, importer i module name w = .error e w₁ ∧
      Template.load importer i reference w = .error (.noImport e) w₁) ∨
    ∃ module name found w₁, importer i module name w = .ok found w₁ ∧
      ((∃ e, Template.load importer i reference w = .error e w₁ ∧ ∀ e', e ≠ .noImport e') ∨
        ∃ template, Template.load importer i reference w = .ok (template, found.interpreter) w₁) := by
  unfold Template.load
  rcases splitFirst ':' reference with ⟨module, _ | name⟩
  · exact .inl ⟨_, rfl, nofun⟩
  dsimp only
  by_cases empty : module = "" ∨ name = ""
  · rw [if_pos empty]
    exact .inl ⟨_, rfl, nofun⟩
  rw [if_neg empty]
  refine .inr ?_
  cases ended : importer i module name w with
  | error e w₁ =>
    simp only [Bind.bind, EStateM.bind, EStateM.adaptExcept, ended]
    exact .inl ⟨module, name, e, w₁, ended, rfl⟩
  | ok found w₁ =>
    refine .inr ⟨module, name, found, w₁, ended, ?_⟩
    simp only [Bind.bind, EStateM.bind, EStateM.adaptExcept, ended]
    rcases found.member with _ | c | _
    · exact .inl ⟨_, rfl, nofun⟩
    · dsimp only
      cases marked : Template.ofClass c with
      | error e => exact .inl ⟨e, rfl, fun e' same => ofClass_ne_noImport c e' (same ▸ marked)⟩
      | ok template => exact .inr ⟨template, rfl⟩
    · exact .inl ⟨_, rfl, nofun⟩

/-- An importer that changes no files: it keeps no compiled modules, and the code of a module writes nothing. -/
def LeavesFiles (importer : Importer) : Prop :=
  ∀ i module name w, (finalState (importer i module name w)).files = w.files

theorem LeavesFiles.load (leaves : LeavesFiles importer) (reference : String) :
    (finalState (Template.load importer i reference w)).files = w.files := by
  rcases load_cases importer i reference w with
    ⟨e, refused, -⟩ | ⟨module, name, e, w₁, failed, ended⟩ |
      ⟨module, name, found, w₁, done, ⟨e, ended, -⟩ | ⟨template, ended⟩⟩
  · rw [refused]
    rfl
  · rw [ended, ← leaves i module name w, failed]
    rfl
  · rw [ended, ← leaves i module name w, done]
    rfl
  · rw [ended, ← leaves i module name w, done]
    rfl

theorem LeavesFiles.imported (leaves : LeavesFiles importer) (r : Request) :
    (r.imported importer i w).files = w.files := by
  unfold Request.imported
  split
  · rfl
  · exact leaves.load _

end CommandLine

end PluginBuild
