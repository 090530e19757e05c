import PluginBuild.Proofs.Batches
import PluginBuild.Proofs.Frame.Statements
import PluginBuild.Proofs.Outcomes
import PluginBuild.Proofs.Writing
import PluginBuild.Script.Codecs

/-!
Failures that are no failures of a compilation. A compilation that is tried gives a class or says why
there is none, except where something ends it that is not taken for a fault of the script: a null
character in the path, a look-up that cannot be made, a frame that the names do not fit into, or a file
that cannot be written.
-/

namespace PluginBuild

open PluginBuild.Files PluginBuild.Script PluginBuild.Text

inductive Failure.IsOfLookup : Failure → Prop
  | file (e : FileError) : IsOfLookup (.file e)
  | archive (e : Archive.ArchiveError) : IsOfLookup (.archive e)
  | broken (e : ToolchainError) : IsOfLookup (.toolchain e)

theorem entryProvides_error {files : FileTree} {entry : Path} {name : String} {e : Failure}
    (failed : entryProvides files entry name = .error e) : e.IsOfLookup := by
  unfold entryProvides at failed
  split at failed
  · cases failed
    exact .file _
  · cases found : directoryProvides moduleSuffixes files entry name with
    | ok provides =>
      rw [found] at failed
      exact nomatch failed
    | error e' =>
      rw [found] at failed
      cases failed
      exact .file e'
  · rename_i content status
    cases isArchive : Archive.isArchive content with
    | error e' =>
      rw [isArchive] at failed
      cases failed
      exact .archive e'
    | ok found =>
      rw [isArchive] at failed
      cases found with
      | false => exact nomatch failed
      | true =>
        unfold modulesOf at failed
        cases opened : Archive.memberNames content with
        | ok members =>
          rw [opened] at failed
          exact nomatch failed
        | error e' =>
          rw [opened] at failed
          cases failed
          unfold archiveFailure
          split
          · exact .archive _
          · exact .archive _
          · exact .broken _
  · exact nomatch failed

theorem isProvided_error {classpath : List Path} {files : FileTree} {module : String} {e : Failure}
    (failed : isProvided classpath files module = .error e) : e.IsOfLookup := by
  obtain ⟨entry, -, here⟩ := exists_of_isProvided_error failed
  exact entryProvides_error here

theorem areProvided_eq_error {classpath : List Path} {files : FileTree} {modules : List String}
    {e : Failure} : areProvided classpath files modules = .error e ↔
      ∃ front module back, modules = front ++ module :: back ∧
        (∀ other ∈ front, ∃ found, isProvided classpath files other = .ok found) ∧
        isProvided classpath files module = .error e := by
  induction modules with
  | nil => simp [areProvided]
  | cons first rest ih =>
    rw [areProvided]
    cases here : isProvided classpath files first with
    | error e' =>
      constructor
      · intro failed
        cases failed
        exact ⟨[], first, rest, rfl, List.forall_mem_nil _, here⟩
      · rintro ⟨front, module, back, whole, earlier, failed⟩
        cases front with
        | nil =>
          cases whole
          cases here.symm.trans failed
          rfl
        | cons other front =>
          obtain ⟨rfl, -⟩ := List.cons.inj whole
          obtain ⟨found, known⟩ := earlier first List.mem_cons_self
          cases here.symm.trans known
    | ok found =>
      have later : both (.ok found) (areProvided classpath files rest) = .error e ↔
          areProvided classpath files rest = .error e := by
        cases areProvided classpath files rest <;> simp [both, Bind.bind, Except.bind, Pure.pure, Except.pure]
      rw [later, ih]
      constructor
      · rintro ⟨front, module, back, rfl, earlier, failed⟩
        exact ⟨first :: front, module, back, rfl,
          List.forall_mem_cons.mpr ⟨⟨found, here⟩, earlier⟩, failed⟩
      · rintro ⟨front, module, back, whole, earlier, failed⟩
        cases front with
        | nil =>
          cases whole
          cases here.symm.trans failed
        | cons other front =>
          obtain ⟨rfl, behind⟩ := List.cons.inj whole
          exact ⟨front, module, back, behind, (List.forall_mem_cons.mp earlier).2, failed⟩

theorem Files.FileTree.read_eq_nullCharacter {t : FileTree} {path : String} :
    t.read path = .error .nullCharacter ↔ '\x00' ∈ path.toList := by
  unfold FileTree.read FileTree.locate
  by_cases null : '\x00' ∈ path.toList
  · simp [null]
  · simp only [List.contains_eq_mem, null, decide_false, Bool.false_eq_true, if_false, iff_false]
    split <;> rename_i located
    · split at located <;> cases located
      exact fun never => nomatch never
    · exact fun never => nomatch never
    · exact fun never => nomatch never
    · exact fun never => nomatch never

theorem ofBytes_eq_error {codec? : String → Option Codec} {path : Path} {isScript : Bool} {bytes : Bytes}
    {e : Failure} (failed : SourceUnit.ofBytes codec? path isScript bytes = .error e) :
    (∃ fault, e = .toolchain fault) ∨
      ∃ message, e = .encoding message ∧ SourceText.decode codec? bytes = .error (.failed message) := by
  unfold SourceUnit.ofBytes at failed
  split at failed
  · rename_i fault decoded
    cases failed
    cases fault with
    | failed message => exact .inr ⟨message, rfl, decoded⟩
    | _ => exact .inl ⟨_, rfl⟩
  · split at failed
    · cases failed
      exact .inl ⟨_, rfl⟩
    · exact nomatch failed

theorem unitAt_eq_error {template : Template} {files : FileTree} {path : Path} {e : Failure}
    (failed : unitAt template files path = .error e) :
    (∃ fault, e = .toolchain fault) ∨ e = .file .nullCharacter ∧ '\x00' ∈ path.text.toList ∨
      ∃ bytes message, e = .encoding message ∧ files.read path.text = .ok bytes ∧
        SourceText.decode files.platform.codec? bytes = .error (.failed message) := by
  unfold unitAt at failed
  split at failed
  · rename_i null
    cases failed
    exact .inr (.inl ⟨rfl, FileTree.read_eq_nullCharacter.mp null⟩)
  · cases failed
    exact .inl ⟨_, rfl⟩
  · rename_i bytes read
    rcases ofBytes_eq_error failed with told | ⟨message, rfl, undecoded⟩
    · exact .inl told
    · exact .inr (.inr ⟨bytes, message, rfl, read, undecoded⟩)

theorem Script.Stmt.extendFirst_ne_tooDeep (s : Stmt) (more : List Stmt) :
    s.extendFirst more ≠ .error .tooDeep := by
  have block : ∀ s : Stmt, s.extendBlock more ≠ .error .tooDeep := by
    intro s failed
    cases s <;> exact nomatch failed
  have mapped : ∀ {α β : Type} {x : Except AssemblyError α} {f : α → β},
      x.map f = .error .tooDeep → x = .error .tooDeep := by
    intro α β x f failed
    cases x with
    | error e => exact congrArg Except.error (Except.error.inj failed)
    | ok a => exact nomatch failed
  intro failed
  cases s <;> first
    | replace failed := mapped failed
      dsimp only at failed
      split at failed
      · exact nomatch failed
      · exact block _ (mapped failed)
    | exact nomatch failed

theorem frameStatements_ne_tooDeep {c : PluginClass} {t : Template} {script : List Stmt} :
    frameStatements c t script ≠ .error .tooDeep := by
  intro failed
  unfold frameStatements at failed
  split at failed
  · exact nomatch failed
  · exact nomatch failed
  · rename_i m parsed
    split at failed
    · rename_i first second rest body
      cases extended : second.extendFirst script with
      | ok s =>
        rw [extended] at failed
        exact nomatch failed
      | error e =>
        rw [extended] at failed
        cases failed
        exact second.extendFirst_ne_tooDeep script extended
    · exact nomatch failed

theorem assemble_eq_error {m : Module} {c : PluginClass} {t : Template} {e : AssemblyError}
    (other : e ≠ .tooDeep) : assemble m c t = .error e ↔
      isWritable c t = false ∧ frameStatements c t (methodStatements m) = .error e := by
  have unwritable : frameStatements c t (methodStatements m) = .error e → isWritable c t = false := by
    intro failed
    refine Bool.eq_false_iff.mpr fun writable => ?_
    rw [Frame.frameStatements_of_isWritable writable] at failed
    exact nomatch failed
  rw [assemble_eq, and_iff_right_of_imp unwritable]
  cases frameStatements c t (methodStatements m) with
  | error e' =>
    constructor
    · intro failed
      cases failed
      rfl
    · intro failed
      cases failed
      rfl
  | ok frame =>
    constructor
    · intro failed
      exfalso
      by_cases deep : m.nodes.any (Node.isDeeperThan maxWalkDepth) = true
      · exact other (Except.error.inj ((if_pos deep).symm.trans failed)).symm
      · exact nomatch (if_neg deep).symm.trans failed
    · exact fun never => nomatch never

/-- Failures of a compilation that are no faults of its script, before anything is written. -/
inductive Escapes (classpath : List Path) (template : Template) (files : FileTree) (source : Path) :
    Failure → Prop
  | nowhere {e : FileError} (gone : files.absolute? source = .error e) :
      Escapes classpath template files source (.file e)
  | path {root : Path} (here : files.absolute? source = .ok root) (null : '\x00' ∈ root.text.toList) :
      Escapes classpath template files source (.file .nullCharacter)
  | encoding {root : Path} {bytes : Bytes} {message : String} (here : files.absolute? source = .ok root)
      (read : files.read root.text = .ok bytes)
      (fails : SourceText.decode files.platform.codec? bytes = .error (.failed message)) :
      Escapes classpath template files source (.encoding message)
  | lookup {root : Path} {unit : SourceUnit} {tree : Module} {front back : List String} {module : String}
      {e : Failure} (here : files.absolute? source = .ok root)
      (read : unitAt template files root = .ok unit)
      (parsed : unit.tree = .ok tree) (needed : needs template tree = front ++ module :: back)
      (earlier : ∀ other ∈ front, ∃ found, isProvided classpath files other = .ok found)
      (fails : isProvided classpath files module = .error e) (plain : ∀ fault, e ≠ .toolchain fault) :
      Escapes classpath template files source e
  | frame {root : Path} {unit : SourceUnit} {tree : Module} {plugin : PluginClass} {e : AssemblyError}
      (here : files.absolute? source = .ok root) (read : unitAt template files root = .ok unit)
      (parsed : unit.tree = .ok tree) (script : unit.plugin = some plugin)
      (passes : (demandOf template tree).isMet classpath files = .ok true)
      (unwritable : isWritable plugin template = false)
      (fails : frameStatements plugin template (methodStatements tree) = .error e) :
      Escapes classpath template files source (.assembly e)

section
variable {b : Backend} {classpath : List Path} {template : Template} {files : FileTree} {source : Path}

theorem result_eq_error {unit : SourceUnit} {e : Failure} :
    unit.result b classpath template files = .error e ↔ ∃ tree, unit.tree = .ok tree ∧
      ((demandOf template tree).isMet classpath files = .error e ∨
        (demandOf template tree).isMet classpath files = .ok true ∧
          unit.generated b template tree = .error e) := by
  unfold SourceUnit.result SourceUnit.passes
  cases parsed : unit.tree with
  | error report => simp [Bind.bind, Except.bind, Pure.pure, Except.pure]
  | ok tree =>
    dsimp only
    cases met : (demandOf template tree).isMet classpath files with
    | error e' => simp [Bind.bind, Except.bind, met]
    | ok passes =>
      cases passes with
      | false => simp [Bind.bind, Except.bind, Pure.pure, Except.pure, met]
      | true =>
        cases made : unit.generated b template tree with
        | error e' => simp [Bind.bind, Except.bind, met, made]
        | ok outputs => simp [Bind.bind, Except.bind, Pure.pure, Except.pure, met, made]

theorem codeChecked_error {fileName : String} {m : Module} {e : Failure}
    (failed : codeChecked fileName m = .error e) : ∃ fault, e = .toolchain fault := by
  unfold codeChecked at failed
  split at failed
  · cases failed
    exact ⟨_, rfl⟩
  · exact nomatch failed

theorem generated_eq_error {unit : SourceUnit} {tree : Module} {e : Failure}
    (plain : ∀ fault, e ≠ .toolchain fault) : unit.generated b template tree = .error e ↔
      ∃ plugin fault, unit.plugin = some plugin ∧ isWritable plugin template = false ∧
        frameStatements plugin template (methodStatements tree) = .error fault ∧
        e = .assembly fault := by
  have checked : ∀ (m : Module) (outputs : Outputs), (do
      codeChecked unit.path.text m
      return outputs) ≠ Except.error e := by
    intro m outputs failed
    cases ended : codeChecked unit.path.text m with
    | ok _ =>
      rw [ended] at failed
      exact nomatch failed
    | error e' =>
      rw [ended] at failed
      cases failed
      obtain ⟨fault, rfl⟩ := codeChecked_error ended
      exact plain fault rfl
  unfold SourceUnit.generated
  cases script : unit.plugin with
  | none =>
    constructor
    · intro failed
      exact absurd failed (checked _ _)
    · rintro ⟨_, _, never, -⟩
      exact nomatch never
  | some plugin =>
    dsimp only
    constructor
    · intro failed
      split at failed
      · cases failed
        exact absurd rfl (plain _)
      · rename_i fault other assembled
        cases failed
        have frame := (assemble_eq_error other).mp assembled
        exact ⟨plugin, fault, rfl, frame.1, frame.2, rfl⟩
      · exact absurd failed (checked _ _)
    · rintro ⟨_, fault, same, unwritable, frame, rfl⟩
      cases same
      have other : fault ≠ .tooDeep := by
        rintro rfl
        exact frameStatements_ne_tooDeep frame
      rw [(assemble_eq_error other).mpr ⟨unwritable, frame⟩]
      cases fault <;> first | rfl | exact absurd rfl other

theorem demand_isMet_eq_error {tree : Module} {e : Failure} :
    (demandOf template tree).isMet classpath files = .error e ↔
      areProvided classpath files (needs template tree) = .error e := by
  unfold demandOf Demand.isMet
  cases areProvided classpath files (needs template tree) with
  | error e' => exact Iff.rfl
  | ok found =>
    constructor
    · exact fun never => nomatch never
    · exact fun never => nomatch never

/-- What a compilation guards is a failure of a compilation, so another failure is the one that came up. -/
theorem eq_of_guardedFailure {e e' : Failure} (other : ∀ f, e ≠ .compilation f)
    (same : e = guardedFailure source e') : e' = e ∧ ∀ fault, e' ≠ .toolchain fault := by
  cases e' with
  | toolchain fault => exact absurd same (other _)
  | _ => exact ⟨same.symm, fun _ never => by cases never⟩

theorem escapes_of_unitAt {root : Path} {e : Failure} (here : files.absolute? source = .ok root)
    (unread : unitAt template files root = .error e) (plain : ∀ fault, e ≠ .toolchain fault) :
    Escapes classpath template files source e := by
  rcases unitAt_eq_error unread with ⟨fault, rfl⟩ | ⟨rfl, null⟩ | ⟨bytes, message, rfl, read, fails⟩
  · exact absurd rfl (plain fault)
  · exact .path here null
  · exact .encoding here read fails

theorem escapes_of_product {root : Path} {unit : SourceUnit} {e : Failure}
    (here : files.absolute? source = .ok root) (read : unitAt template files root = .ok unit)
    (made : unit.product b classpath template files source = .error e)
    (other : ∀ f, e ≠ .compilation f) (plain : ∀ fault, e ≠ .toolchain fault) :
    Escapes classpath template files source e := by
  unfold SourceUnit.product at made
  split at made
  · rename_i e' result
    cases made
    -- A result that fails comes of a look-up, or of names that do not fit into the frame.
    obtain ⟨tree, parsed, unmet | ⟨met, generated⟩⟩ := result_eq_error.mp result
    · obtain ⟨front, module, back, needed, earlier, fails⟩ :=
        areProvided_eq_error.mp (demand_isMet_eq_error.mp unmet)
      exact .lookup here read parsed needed earlier fails plain
    · obtain ⟨plugin, fault, script, unwritable, frame, rfl⟩ :=
        (generated_eq_error plain).mp generated
      exact .frame here read parsed script met unwritable frame
  · cases made
    exact absurd rfl (other _)
  · split at made <;> cases made
    exact absurd rfl (other _)

theorem escapes_of_scriptOutcome {e : Failure}
    (failed : scriptOutcome b classpath template files source = .error e)
    (other : ∀ f, e ≠ .compilation f) : Escapes classpath template files source e := by
  unfold scriptOutcome at failed
  split at failed
  · rename_i gone
    cases failed
    exact .nowhere gone
  · rename_i root here
    split at failed
    · rename_i e' unread
      obtain ⟨rfl, plain⟩ := eq_of_guardedFailure other (Except.error.inj failed).symm
      exact escapes_of_unitAt here unread plain
    · rename_i unit read
      cases made : unit.product b classpath template files source with
      | ok result =>
        rw [made] at failed
        cases failed
      | error e' =>
        rw [made] at failed
        obtain ⟨rfl, plain⟩ := eq_of_guardedFailure other (Except.error.inj failed).symm
        exact escapes_of_product here read made other plain

theorem scriptOutcome_of_unread {root : Path} {e : Failure} (here : files.absolute? source = .ok root)
    (unread : unitAt template files root = .error e) :
    scriptOutcome b classpath template files source = .error (guardedFailure source e) := by
  rw [scriptOutcome, here]
  dsimp only
  rw [unread]

theorem scriptOutcome_of_result {root : Path} {unit : SourceUnit} {e : Failure}
    (here : files.absolute? source = .ok root) (read : unitAt template files root = .ok unit)
    (failed : unit.result b classpath template files = .error e) :
    scriptOutcome b classpath template files source = .error (guardedFailure source e) := by
  rw [scriptOutcome, here]
  dsimp only
  rw [read]
  dsimp only
  rw [SourceUnit.product, failed]
  rfl

theorem scriptOutcome_of_escapes {e : Failure} (escapes : Escapes classpath template files source e) :
    scriptOutcome b classpath template files source = .error e ∧ ∀ f, e ≠ .compilation f := by
  cases escapes with
  | nowhere gone =>
    refine ⟨?_, fun _ never => nomatch never⟩
    rw [scriptOutcome, gone]
  | @path root here null =>
    have unread : unitAt template files root = .error (.file .nullCharacter) := by
      rw [unitAt, FileTree.read_eq_nullCharacter.mpr null]
    exact ⟨scriptOutcome_of_unread here unread, fun _ never => nomatch never⟩
  | @encoding root bytes message here read fails =>
    have unread : unitAt template files root = .error (.encoding message) := by
      rw [unitAt, read]
      dsimp only
      rw [SourceUnit.ofBytes, fails]
      rfl
    exact ⟨scriptOutcome_of_unread here unread, fun _ never => nomatch never⟩
  | @lookup root unit tree front back module e here read parsed needed earlier fails plain =>
    have unmet : (demandOf template tree).isMet classpath files = .error e :=
      demand_isMet_eq_error.mpr
        (areProvided_eq_error.mpr ⟨front, module, back, needed, earlier, fails⟩)
    have result : unit.result b classpath template files = .error e :=
      result_eq_error.mpr ⟨tree, parsed, .inl unmet⟩
    have outcome := scriptOutcome_of_result here read result
    cases isProvided_error fails with
    | broken fault => exact absurd rfl (plain fault)
    | _ => exact ⟨outcome, fun _ never => nomatch never⟩
  | @frame root unit tree plugin fault here read parsed script passes unwritable fails =>
    have plain : ∀ other, Failure.assembly fault ≠ .toolchain other := fun _ same => nomatch same
    have generated : unit.generated b template tree = .error (.assembly fault) :=
      (generated_eq_error plain).mpr ⟨plugin, fault, script, unwritable, fails, rfl⟩
    have result : unit.result b classpath template files = .error (.assembly fault) :=
      result_eq_error.mpr ⟨tree, parsed, .inr ⟨passes, generated⟩⟩
    exact ⟨scriptOutcome_of_result here read result, fun _ never => nomatch never⟩

/-- Before anything is written, a compilation gives its files, fails as one, or ends in one of the ways
that escape. -/
theorem scriptOutcome_escapes_iff {e : Failure} :
    (scriptOutcome b classpath template files source = .error e ∧ ∀ f, e ≠ .compilation f) ↔
      Escapes classpath template files source e :=
  ⟨fun ⟨failed, other⟩ => escapes_of_scriptOutcome failed other, scriptOutcome_of_escapes⟩

variable (b classpath template source)

/-- A compilation that is tried ends with a class, with the reason why there is none, or with one of
exactly these failures: one that escapes before anything is written, or the first file that cannot be
written. -/
theorem compile?_error_iff (directory : Path) (w : Workspace) (e : Failure) :
    (∃ w', (scriptCompiler b classpath template).compile? source directory w = .error e w') ↔
      Escapes classpath template w.files source e ∨
      ∃ plugin outputs fault t, scriptOutcome b classpath template w.files source = .ok (plugin, outputs) ∧
        w.files.putOutputs directory outputs = .error fault t ∧ e = .file fault := by
  have ran := compile_run b classpath template source directory w
  rw [← scriptOutcome_escapes_iff (b := b), compile?_run]
  cases outcome : scriptOutcome b classpath template w.files source with
  | error e' =>
    rw [outcome] at ran
    obtain ⟨w', -, failed⟩ := ran
    rw [failed]
    constructor
    · rintro ⟨w'', ended⟩
      split at ended
      · exact nomatch ended
      · exact nomatch ended
      · rename_i other same
        cases same
        cases ended
        exact .inl ⟨rfl, fun f same => other f (by rw [same])⟩
    · rintro (⟨same, other⟩ | ⟨_, _, _, _, never, -⟩)
      · cases same
        cases e with
        | compilation f => exact absurd rfl (other f)
        | _ => exact ⟨w', rfl⟩
      · exact nomatch never
  | ok result =>
    obtain ⟨plugin, outputs⟩ := result
    rw [outcome] at ran
    obtain ⟨w₁, after, same, -, ended⟩ := ran
    obtain ⟨log, wrote⟩ := writeOutputs_run directory outputs w₁
    rw [ended, wrote, same]
    cases put : w.files.putOutputs directory outputs with
    | ok _ t =>
      constructor
      · rintro ⟨w', never⟩
        exact nomatch never
      · rintro (⟨never, -⟩ | ⟨_, _, _, _, known, failed, -⟩)
        · exact nomatch never
        · cases known
          exact nomatch put.symm.trans failed
    | error fault t =>
      constructor
      · rintro ⟨w', failed⟩
        cases failed
        exact .inr ⟨plugin, outputs, fault, t, rfl, put, rfl⟩
      · rintro (⟨never, -⟩ | ⟨_, _, _, _, known, failed, rfl⟩)
        · exact nomatch never
        · cases known
          cases put.symm.trans failed
          exact ⟨_, rfl⟩

end

def failureOf? {α : Type} : EStateM.Result Failure Workspace α → Option Failure
  | .ok _ _ => none
  | .error e _ => some e

theorem failureOf?_eq_some {α : Type} {r : EStateM.Result Failure Workspace α} {e : Failure}
    (failed : failureOf? r = some e) : ∃ w, r = .error e w := by
  cases r with
  | ok a w => exact nomatch failed
  | error e' w =>
    cases failed
    exact ⟨w, rfl⟩

/-- A library and a script whose name has a digit that no class can have in its name. -/
def superscriptWorkspace : Workspace :=
  ⟨⟨[(["lib"], .directory), (["lib", "toolchain"], .directory), (["in"], .directory),
    (["in", "x²y.plugin.py"], .file (encodeUtf8 "x = 1\n"))], [], .plain⟩, [], [], [], []⟩

set_option maxRecDepth 100000 in
/-- The class of a script named x²y cannot be written, which is not told as a fault of the script. -/
theorem superscript_escapes : ∃ w', (scriptCompiler (fun _ _ => []) [Path.ofString "lib"] .plugin).compile?
    (Path.ofString "in/x²y.plugin.py") (Path.ofString "out") superscriptWorkspace =
      .error (.assembly (.unwritable "invalid character '²' (U+00B2)" 4)) w' :=
  failureOf?_eq_some (by decide +kernel)

end PluginBuild
