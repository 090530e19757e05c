import Mathlib.Data.List.TakeWhile
import PluginBuild.Proofs.Tasks
import PluginBuild.Symbols

/-!
Look-ups against the files alone. An index remembers the names in the archives that it has opened;
while the files stay as they are, it answers as if it looked into them each time.
-/

namespace PluginBuild

open PluginBuild.Files PluginBuild.Text

/-- The modules in an archive, going by its content. -/
def modulesOf (entry : Path) (content : Bytes) : Except Failure (List String) :=
  match Archive.memberNames content with
  | .error e => .error (archiveFailure entry e)
  | .ok members => .ok (modulesOfMembers moduleSuffixes members)

/-- Whether an entry of a classpath provides a top-level module, going by the files. -/
def entryProvides (files : FileTree) (entry : Path) (name : String) : Except Failure Bool :=
  match files.status? entry.text with
  | .error e => .error (.file e)
  | .ok (some .directory) => (directoryProvides moduleSuffixes files entry name).mapError .file
  | .ok (some (.file content)) => do
    if ← (Archive.isArchive content).mapError .archive then
      return (← modulesOf entry content).contains name
    else return false
  | .ok _ => .ok false

/-- Whether one of some entries provides a top-level module. Entries behind the first that does are not
looked at. -/
def providedBy (files : FileTree) (name : String) : List Path → Except Failure Bool
  | [] => .ok false
  | entry :: rest => do
    if ← entryProvides files entry name then return true
    providedBy files name rest

/-- The first of some entries that provides a top-level module. -/
def providerOf (files : FileTree) (name : String) : List Path → Except Failure (Option Path)
  | [] => .ok none
  | entry :: rest => do
    if ← entryProvides files entry name then return some entry
    providerOf files name rest

theorem providedBy_eq (files : FileTree) (name : String) (entries : List Path) :
    providedBy files name entries = (providerOf files name entries).map (·.isSome) := by
  induction entries with
  | nil => rfl
  | cons entry rest ih =>
    rw [providedBy, providerOf, ih]
    cases entryProvides files entry name with
    | error e => rfl
    | ok provides => cases provides <;> rfl

/-- Whether a module is built in or on a classpath. -/
def isProvided (classpath : List Path) (files : FileTree) (module : String) : Except Failure Bool :=
  if builtinModules.contains (topModule module) then .ok true
  else providedBy files (topModule module) classpath

theorem providedBy_append {files : FileTree} {name : String} {entries : List Path}
    (found : providedBy files name entries = .ok true) (extra : List Path) :
    providedBy files name (entries ++ extra) = .ok true := by
  induction entries with
  | nil => exact nomatch found
  | cons entry rest ih =>
    rw [List.cons_append, providedBy]
    rw [providedBy] at found
    cases here : entryProvides files entry name with
    | error e =>
      rw [here] at found
      exact nomatch found
    | ok provides =>
      rw [here] at found
      cases provides with
      | true => rfl
      | false => exact ih found

theorem isProvided_append {classpath : List Path} {files : FileTree} {module : String}
    (found : isProvided classpath files module = .ok true) (extra : List Path) :
    isProvided (classpath ++ extra) files module = .ok true := by
  unfold isProvided at found ⊢
  split
  · rfl
  · rename_i other
    rw [if_neg other] at found
    exact providedBy_append found extra

theorem exists_of_isProvided_error {classpath : List Path} {files : FileTree} {module : String} {e : Failure}
    (failed : isProvided classpath files module = .error e) :
    ∃ entry ∈ classpath, entryProvides files entry (topModule module) = .error e := by
  unfold isProvided at failed
  split at failed
  · exact nomatch failed
  induction classpath with
  | nil => exact nomatch failed
  | cons entry rest ih =>
    rw [providedBy] at failed
    cases here : entryProvides files entry (topModule module) with
    | error e' =>
      rw [here] at failed
      cases failed
      exact ⟨entry, List.mem_cons_self, here⟩
    | ok provides =>
      rw [here] at failed
      cases provides with
      | true => exact nomatch failed
      | false =>
        obtain ⟨other, member, there⟩ := ih failed
        exact ⟨other, List.mem_cons_of_mem entry member, there⟩

/-- What is remembered of archives is what the files show. -/
def Remembers (files : FileTree) (archives : List (Path × OpenArchive)) : Prop :=
  ∀ entry archive, archives.lookup entry = some archive → ∃ content,
    files.status? entry.text = .ok (some (.file content)) ∧ Archive.isArchive content = .ok true ∧
    modulesOf entry content = .ok archive.modules

theorem Remembers.nothing (files : FileTree) : Remembers files [] :=
  fun _ _ known => nomatch known

/-- A look-up that ends with a certain answer, whatever it remembers of the files. -/
def Lookup.Answers {α : Type} (files : FileTree) (lookup : Lookup α) (answer : Except Failure α) :
    Prop :=
  ∀ archives, Remembers files archives → ∃ archives', Remembers files archives' ∧
    lookup archives = match answer with
      | .ok a => .ok a archives'
      | .error e => .error e archives'

namespace Lookup.Answers

variable {α β : Type} {files : FileTree}

theorem pure (a : α) : Answers files (Pure.pure a : Lookup α) (.ok a) :=
  fun archives remembers => ⟨archives, remembers, rfl⟩

theorem throw (e : Failure) : Answers files (throw e : Lookup α) (.error e) :=
  fun archives remembers => ⟨archives, remembers, rfl⟩

theorem bind {lookup : Lookup α} {next : α → Lookup β} {answer : Except Failure α}
    {then_ : α → Except Failure β} (first : Answers files lookup answer)
    (second : ∀ a, answer = .ok a → Answers files (next a) (then_ a)) :
    Answers files (lookup >>= next) (answer >>= then_) := by
  intro archives remembers
  obtain ⟨archives₁, remembers₁, ran⟩ := first archives remembers
  cases answer with
  | error e => exact ⟨archives₁, remembers₁, by simp [Bind.bind, EStateM.bind, ran, Except.bind]⟩
  | ok a =>
    obtain ⟨archives₂, remembers₂, ran'⟩ := second a rfl archives₁ remembers₁
    refine ⟨archives₂, remembers₂, ?_⟩
    simpa [Bind.bind, EStateM.bind, ran, Except.bind] using ran'

theorem ask (answer : Except FileError α) : Answers files (Lookup.ask answer) (answer.mapError .file) := by
  cases answer with
  | ok a => exact pure a
  | error e => exact throw (.file e)

end Lookup.Answers

theorem Files.FileTree.locate_of_status {t : FileTree} {s : String} {x : Entry}
    (known : t.status? s = .ok (some x)) : ∃ place, t.locate true s = .ok (.found place x) := by
  unfold FileTree.status? at known
  split at known
  · rename_i place y located
    cases known
    exact ⟨place, located⟩
  · exact nomatch known
  · exact nomatch known
  · exact nomatch known

theorem Files.FileTree.read_of_status {t : FileTree} {s : String} {content : Bytes}
    (known : t.status? s = .ok (some (.file content))) : t.read s = .ok content := by
  obtain ⟨place, located⟩ := FileTree.locate_of_status known
  unfold FileTree.read
  rw [located]

namespace Lookup

variable {files : FileTree} {entry : Path}

theorem get_run {α : Type} (next : List (Path × OpenArchive) → Lookup α)
    (archives : List (Path × OpenArchive)) : (get >>= next) archives = next archives archives := rfl

theorem isArchive_answers (files : FileTree) (entry : Path) : Answers files (isArchive files entry)
    (match files.status? entry.text with
      | .error e => .error (.file e)
      | .ok (some (.file content)) => (Archive.isArchive content).mapError .archive
      | .ok _ => .ok false) := by
  intro archives remembers
  refine ⟨archives, remembers, ?_⟩
  unfold isArchive
  show (if (archives.lookup entry).isSome then _ else _ : Lookup Bool) archives = _
  cases known : archives.lookup entry with
  | some modules =>
    obtain ⟨content, status, archive, -⟩ := remembers entry modules known
    rw [status]
    dsimp only
    rw [archive]
    rfl
  | none =>
    simp only [Option.isSome_none, Bool.false_eq_true, if_false, FileTree.isFile]
    cases status : files.status? entry.text with
    | error e => rfl
    | ok found =>
      match found with
      | none | some .directory | some (.link target) => rfl
      | some (.file content) =>
        have asked : ∀ next : Bytes → Lookup Bool,
            (Lookup.ask (files.read entry.text) >>= next) archives = next content archives := by
          intro next
          rw [FileTree.read_of_status status]
          rfl
        show (Lookup.ask (files.read entry.text) >>= _) archives = _
        rw [asked]
        dsimp only
        cases answer : Archive.isArchive content <;> rfl

theorem archiveModules_answers {content : Bytes}
    (status : files.status? entry.text = .ok (some (.file content)))
    (archive : Archive.isArchive content = .ok true) :
    Answers files (archiveModules files entry) (modulesOf entry content) := by
  intro archives remembers
  unfold archiveModules
  rw [get_run]
  cases known : archives.lookup entry with
  | some modules =>
    obtain ⟨content', status', -, opened⟩ := remembers entry modules known
    obtain rfl : content = content' := by
      rw [status] at status'
      cases status'
      rfl
    rw [opened]
    exact ⟨archives, remembers, rfl⟩
  | none =>
    have asked : ∀ next : Bytes → Lookup (List String),
        (Lookup.ask (files.read entry.text) >>= next) archives = next content archives := by
      intro next
      rw [FileTree.read_of_status status]
      rfl
    dsimp only
    rw [asked]
    unfold modulesOf
    cases opened : Archive.memberNames content with
    | error e => exact ⟨archives, remembers, rfl⟩
    | ok members =>
      refine ⟨(entry, ⟨modulesOfMembers moduleSuffixes members, false⟩) :: archives, ?_, rfl⟩
      intro other modules found
      rw [List.lookup_cons] at found
      split at found
      · rename_i same
        cases found
        obtain rfl : other = entry := by simpa using same
        exact ⟨content, status, archive, by rw [modulesOf, opened]⟩
      · exact remembers other modules found

theorem provides_answers (files : FileTree) (entry : Path) (name : String) :
    Answers files (provides files entry name) (entryProvides files entry name) := by
  unfold provides entryProvides FileTree.isDirectory
  have archived := isArchive_answers files entry
  cases status : files.status? entry.text with
  | error e => exact .throw (.file e)
  | ok found =>
    rw [status] at archived
    match found with
    | some .directory => exact .ask _
    | none | some (.link target) => exact .bind archived fun _ answer => by cases answer; exact .pure false
    | some (.file content) =>
      show Answers files (isArchive files entry >>= _) ((Archive.isArchive content).mapError .archive >>=
        fun is => if is then (modulesOf entry content >>= fun modules =>
          Pure.pure (modules.contains name)) else Pure.pure false)
      refine .bind archived fun is answer => ?_
      cases is with
      | true =>
        have archive : Archive.isArchive content = .ok true := by
          cases here : Archive.isArchive content <;> rw [here] at answer <;> cases answer
          rfl
        exact .bind (archiveModules_answers status archive) fun modules _ => .pure _
      | false => exact .pure false

theorem locate_answers (files : FileTree) (name : String) (entries : List Path) :
    Answers files (locate files name entries) (providerOf files name entries) := by
  induction entries with
  | nil => exact .pure none
  | cons entry rest ih =>
    rw [locate, providerOf]
    refine .bind (provides_answers files entry name) fun provides _ => ?_
    cases provides with
    | true => exact .pure (some entry)
    | false => exact ih

end Lookup

theorem topModule_eq (module : String) :
    topModule module = String.ofList (module.toList.takeWhile (· != '.')) := by
  unfold topModule splitFirst
  dsimp only
  split
  · rename_i whole
    have all := (List.takeWhile_prefix (· != '.')).eq_of_length_le (List.drop_eq_nil_iff.mp whole)
    rw [all, String.ofList_toList]
  · rfl

theorem topModule_topModule (module : String) : topModule (topModule module) = topModule module := by
  simp only [topModule_eq, String.toList_ofList, List.takeWhile_idem]

namespace SymbolIndex

variable {files : FileTree} {index : SymbolIndex}

/-- An index that has only opened archives of its classpath answers by the files. -/
theorem locate_run (remembers : Remembers files index.archives) (module : String) :
    ∃ archives, Remembers files archives ∧ index.locate files module =
      (providerOf files (topModule module) index.entries, { index with archives }) := by
  obtain ⟨archives, remembers', ran⟩ :=
    Lookup.locate_answers files (topModule module) index.entries _ remembers
  refine ⟨archives, remembers', ?_⟩
  unfold locate run
  rw [ran]
  cases providerOf files (topModule module) index.entries <;> rfl

theorem resolves_run (remembers : Remembers files index.archives) (module : String) :
    ∃ archives, Remembers files archives ∧ index.resolves files module =
      (isProvided index.entries files module, { index with archives }) := by
  unfold resolves isProvided
  dsimp only
  split
  · exact ⟨index.archives, remembers, rfl⟩
  · obtain ⟨archives, remembers', located⟩ := locate_run remembers (topModule module)
    refine ⟨archives, remembers', ?_⟩
    rw [located, topModule_topModule, providedBy_eq]
    cases providerOf files (topModule module) index.entries <;> rfl

end SymbolIndex

end PluginBuild
