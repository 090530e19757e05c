import PluginBuild.Proofs.Lookups
import PluginBuild.Proofs.Members

/-!
What an index answers, told by the files alone. Which archives an index has opened depends on all that
it was asked before; the first entry of its classpath that provides a module does not, and neither does
the first that cannot be asked for it.
-/

namespace PluginBuild

open PluginBuild.Files PluginBuild.Text

/-- An entry of a classpath that is an archive, with its members. -/
def IsArchiveOf (files : FileTree) (entry : Path) (members : List String) : Prop :=
  ∃ content, files.status? entry.text = .ok (some (.file content)) ∧
    Archive.isArchive content = .ok true ∧ Archive.memberNames content = .ok members

/-- An entry of a classpath that provides a module: a directory with a directory of that name or a
file of that name and an ending, or an archive with such a directory or file at its top. -/
inductive Provides (files : FileTree) (entry : Path) (name : String) : Prop
  | directory (entered : files.status? entry.text = .ok (some .directory))
    (there : files.status? (entry.child name).text = .ok (some .directory))
  | file {suffix : String} {content : Bytes}
    (entered : files.status? entry.text = .ok (some .directory)) (known : suffix ∈ moduleSuffixes)
    (there : files.status? (entry.child (name ++ suffix)).text = .ok (some (.file content)))
  | below {members : List String} {rest : String} (archive : IsArchiveOf files entry members)
    (there : name ++ "/" ++ rest ∈ members)
  | member {members : List String} {suffix : String} (archive : IsArchiveOf files entry members)
    (known : suffix ∈ moduleSuffixes) (there : name ++ suffix ∈ members)

/-- An entry of a classpath that cannot be asked for a module: a path that must be looked at is refused,
and what was asked before had a no. -/
inductive Refuses (files : FileTree) (entry : Path) (name : String) (e : FileError) : Prop
  | entry (refused : files.status? entry.text = .error e)
  | directory (entered : files.status? entry.text = .ok (some .directory))
    (refused : files.status? (entry.child name).text = .error e)
  | file {before after : List String} {suffix : String}
    (entered : files.status? entry.text = .ok (some .directory))
    (noDirectory : ∃ x, files.status? (entry.child name).text = .ok x ∧ x ≠ some .directory)
    (split : moduleSuffixes = before ++ suffix :: after)
    (noFile : ∀ other ∈ before, ∃ x, files.status? (entry.child (name ++ other)).text = .ok x ∧
      ¬ ∃ content, x = some (.file content))
    (refused : files.status? (entry.child (name ++ suffix)).text = .error e)

theorem nameTooLong_of_status {files : FileTree} {s : String} {e : FileError}
    (refused : files.status? s = .error e) : ∃ path, e = .refused .nameTooLong path := by
  unfold FileTree.status? at refused
  split at refused
  · exact nomatch refused
  · exact nomatch refused
  · exact ⟨_, (Except.error.inj refused).symm⟩
  · exact nomatch refused

theorem Refuses.nameTooLong {files : FileTree} {entry : Path} {name : String} {e : FileError}
    (refuses : Refuses files entry name e) : ∃ path, e = .refused .nameTooLong path := by
  cases refuses with
  | entry refused => exact nameTooLong_of_status refused
  | directory _ refused => exact nameTooLong_of_status refused
  | file _ _ _ _ refused => exact nameTooLong_of_status refused

/-- An entry of a classpath that has a no for a module. -/
def IsPassed (files : FileTree) (name : String) (entry : Path) : Prop :=
  ¬ Provides files entry name ∧ ∀ e, ¬ Refuses files entry name e

/-- Where a module is found along a classpath: at the first entry that is not passed. -/
inductive IsLocated (files : FileTree) (classpath : List Path) (name : String) :
    Except Failure (Option Path) → Prop
  | found {front back : List Path} {entry : Path} (split : classpath = front ++ entry :: back)
    (passed : ∀ other ∈ front, IsPassed files name other) (provides : Provides files entry name)
    (allowed : ∀ e, ¬ Refuses files entry name e) : IsLocated files classpath name (.ok (some entry))
  | missing (passed : ∀ entry ∈ classpath, IsPassed files name entry) :
    IsLocated files classpath name (.ok none)
  | refused {front back : List Path} {entry : Path} {e : FileError}
    (split : classpath = front ++ entry :: back) (passed : ∀ other ∈ front, IsPassed files name other)
    (refuses : Refuses files entry name e) : IsLocated files classpath name (.error (.file e))

/-- Content that is no archive, or one that can be read. -/
def Archive.Opens (content : Bytes) : Prop :=
  Archive.isArchive content = .ok false ∨
    Archive.isArchive content = .ok true ∧ ∃ members, Archive.memberNames content = .ok members

/-- The archives on a classpath can be read. -/
def ArchivesOpen (files : FileTree) (classpath : List Path) : Prop :=
  ∀ entry ∈ classpath, ∀ content, files.status? entry.text = .ok (some (.file content)) →
    Archive.Opens content

def opensAt (files : FileTree) (entry : Path) : Bool :=
  match files.status? entry.text with
  | .ok (some (.file content)) =>
    match Archive.isArchive content with
    | .ok true => (Archive.memberNames content).toBool
    | .ok false => true
    | .error _ => false
  | _ => true

instance (files : FileTree) (classpath : List Path) : Decidable (ArchivesOpen files classpath) :=
  decidable_of_iff (∀ entry ∈ classpath, opensAt files entry = true) <| by
    refine forall_congr' fun entry => forall_congr' fun _ => ?_
    unfold opensAt
    constructor
    · intro opened content shown
      simp only [shown] at opened
      unfold Archive.Opens
      cases archive : Archive.isArchive content with
      | error e => simp [archive] at opened
      | ok found =>
        cases found with
        | false => exact .inl rfl
        | true =>
          cases read : Archive.memberNames content with
          | ok members => exact .inr ⟨rfl, members, rfl⟩
          | error e => simp [archive, read, Except.toBool] at opened
    · intro opened
      split
      · rename_i content shown
        rcases opened content shown with no | ⟨archive, members, read⟩
        · rw [no]
        · simp [archive, read, Except.toBool]
      · rfl

section
variable {files : FileTree} {classpath : List Path} {entry : Path} {name : String}

theorem IsLocated.cons {answer : Except Failure (Option Path)} (first : IsPassed files name entry)
    (rest : IsLocated files classpath name answer) :
    IsLocated files (entry :: classpath) name answer := by
  cases rest with
  | found split passed provides allowed =>
    exact .found (by rw [split]; rfl) (List.forall_mem_cons.mpr ⟨first, passed⟩) provides allowed
  | missing passed => exact .missing (List.forall_mem_cons.mpr ⟨first, passed⟩)
  | refused split passed refuses =>
    exact .refused (by rw [split]; rfl) (List.forall_mem_cons.mpr ⟨first, passed⟩) refuses

theorem answered_iff {answer : Except FileError (Option Entry)} {yes : Option Entry → Prop} :
    ((¬ ∃ x, answer = .ok x ∧ yes x) ∧ ∀ e, answer ≠ .error e) ↔ ∃ x, answer = .ok x ∧ ¬ yes x := by
  cases answer <;> simp

theorem directoryProvides_of_entered (entered : files.status? entry.text = .ok (some .directory)) :
    Decides (directoryProvides moduleSuffixes files entry name) (Provides files entry name)
      (Refuses files entry name) := by
  have noArchive {members : List String} : ¬ IsArchiveOf files entry members := by
    rintro ⟨content, shown, -⟩
    exact nomatch entered.symm.trans shown
  have directory : Decides (files.isDirectory (entry.child name).text)
      (∃ x, files.status? (entry.child name).text = .ok x ∧ x = some .directory)
      (fun e => files.status? (entry.child name).text = .error e) :=
    isDirectory_decides fun x shown => by simp [shown]
  have file (suffix : String) : Decides (files.isFile (entry.child (name ++ suffix)).text)
      (∃ x, files.status? (entry.child (name ++ suffix)).text = .ok x ∧ ∃ content, x = some (.file content))
      (fun e => files.status? (entry.child (name ++ suffix)).text = .error e) :=
    isFile_decides fun x shown => by simp [shown]
  refine (directoryProvides_decides directory fun suffix _ => file suffix).congr ?_ fun e => ?_
  · constructor
    · rintro (⟨x, there, rfl⟩ | ⟨suffix, known, x, there, content, rfl⟩)
      · exact .directory entered there
      · exact .file entered known there
    · intro provides
      cases provides with
      | directory _ there => exact .inl ⟨_, there, rfl⟩
      | file _ known there => exact .inr ⟨_, known, _, there, _, rfl⟩
      | below archive | member archive => exact absurd archive noArchive
  · constructor
    · rintro (refused | ⟨noDirectory, before, suffix, after, split, noFile, refused⟩)
      · exact .directory entered refused
      · exact .file entered (answered_iff.mp noDirectory) split
          (fun other member => answered_iff.mp (noFile other member)) refused
    · intro refuses
      cases refuses with
      | entry refused => exact nomatch entered.symm.trans refused
      | directory _ refused => exact .inl refused
      | file _ noDirectory split noFile refused =>
        exact .inr ⟨answered_iff.mpr noDirectory, _, _, _, split,
          fun other member => answered_iff.mpr (noFile other member), refused⟩

theorem not_refuses_of_shown {x : Option Entry} (shown : files.status? entry.text = .ok x)
    (other : x ≠ some .directory) (e : FileError) : ¬ Refuses files entry name e := by
  intro refuses
  cases refuses with
  | entry refused => exact nomatch shown.symm.trans refused
  | directory entered | file entered => exact other (Except.ok.inj (shown.symm.trans entered))

theorem provides_iff_of_archive (valid : IsModuleName name) {members : List String}
    (archive : IsArchiveOf files entry members) :
    Provides files entry name ↔ name ∈ modulesOfMembers moduleSuffixes members := by
  have only {others : List String} (archive' : IsArchiveOf files entry others) : others = members := by
    obtain ⟨content, shown, -, read⟩ := archive
    obtain ⟨content', shown', -, read'⟩ := archive'
    cases shown.symm.trans shown'
    exact Except.ok.inj (read'.symm.trans read)
  have noDirectory : files.status? entry.text ≠ .ok (some .directory) := by
    obtain ⟨content, shown, -⟩ := archive
    exact fun entered => nomatch shown.symm.trans entered
  rw [mem_modulesOfMembers moduleSuffixes_areEndings valid]
  constructor
  · intro provides
    cases provides with
    | directory entered | file entered => exact absurd entered noDirectory
    | below archive' there => exact .inl ⟨_, only archive' ▸ there⟩
    | member archive' known there =>
      exact .inr ⟨_, known, (valid.isNormalPart_append (moduleSuffixes_undivided _ known)).1.noSeparator,
        only archive' ▸ there⟩
  · rintro (⟨rest, there⟩ | ⟨suffix, known, -, there⟩)
    · exact .below archive there
    · exact .member archive known there

theorem entryProvides_decides (valid : IsModuleName name)
    (opens : ∀ content, files.status? entry.text = .ok (some (.file content)) → Archive.Opens content) :
    Decides (entryProvides files entry name) (Provides files entry name)
      (fun e => ∃ why, Refuses files entry name why ∧ e = .file why) := by
  -- What is neither a directory nor an archive provides nothing and refuses no question.
  have passed {x : Option Entry} (shown : files.status? entry.text = .ok x) (other : x ≠ some .directory)
      (noArchive : ∀ members, ¬ IsArchiveOf files entry members) :
      Decides (.ok false) (Provides files entry name)
        (fun e : Failure => ∃ why, Refuses files entry name why ∧ e = .file why) := by
    refine .no (fun provides => ?_) fun e ⟨why, refuses, _⟩ => not_refuses_of_shown shown other why refuses
    cases provides with
    | directory entered | file entered => exact other (Except.ok.inj (shown.symm.trans entered))
    | below archive | member archive => exact noArchive _ archive
  unfold entryProvides
  cases shown : files.status? entry.text with
  | error e =>
    refine .refused fun d => ⟨?_, fun same => ⟨e, .entry shown, same⟩⟩
    rintro ⟨why, refuses, rfl⟩
    cases refuses with
    | entry refused => rw [Except.error.inj (refused.symm.trans shown)]
    | directory entered | file entered => exact nomatch shown.symm.trans entered
  | ok x =>
    rcases x with _ | (content | target | _)
    case none => exact passed shown (by simp) fun members ⟨content, file, _⟩ => nomatch shown.symm.trans file
    case some.link =>
      exact passed shown (by simp) fun members ⟨content, file, _⟩ => nomatch shown.symm.trans file
    case some.directory => exact (directoryProvides_of_entered shown).mapError Failure.file
    case some.file =>
      dsimp only
      rcases opens content shown with no | ⟨archive, members, read⟩
      · rw [no]
        refine passed shown (by simp) ?_
        rintro members ⟨content', file, archive, -⟩
        cases shown.symm.trans file
        exact nomatch no.symm.trans archive
      · have provides := provides_iff_of_archive valid ⟨content, shown, archive, read⟩
        rw [archive, modulesOf, read]
        exact .of_ok (by rw [provides]; simp)
          fun e ⟨why, refuses, _⟩ => not_refuses_of_shown shown (by simp) why refuses

theorem providerOf_isLocated (valid : IsModuleName name) (opens : ArchivesOpen files classpath) :
    IsLocated files classpath name (providerOf files name classpath) := by
  induction classpath with
  | nil => exact .missing (List.forall_mem_nil _)
  | cons entry rest ih =>
    have here := entryProvides_decides valid (opens entry List.mem_cons_self)
    have later := ih fun other member => opens other (List.mem_cons_of_mem entry member)
    rw [providerOf]
    generalize entryProvides files entry name = answer at here
    cases here with
    | yes provides allowed =>
      exact .found rfl (List.forall_mem_nil _) provides fun e refuses => allowed _ ⟨e, refuses, rfl⟩
    | no fails allowed => exact later.cons ⟨fails, fun e refuses => allowed _ ⟨e, refuses, rfl⟩⟩
    | refused why =>
      obtain ⟨e, refuses, rfl⟩ := (why _).mpr rfl
      exact .refused rfl (List.forall_mem_nil _) refuses

theorem providerOf_passed (valid : IsModuleName name) {front : List Path} (back : List Path)
    (opens : ArchivesOpen files (front ++ back)) (passed : ∀ entry ∈ front, IsPassed files name entry) :
    providerOf files name (front ++ back) = providerOf files name back := by
  induction front with
  | nil => rfl
  | cons entry rest ih =>
    obtain ⟨here, others⟩ := List.forall_mem_cons.mp passed
    have no := (entryProvides_decides valid (opens entry List.mem_cons_self)).eq_no here.1
      fun e ⟨why, refuses, _⟩ => here.2 why refuses
    rw [List.cons_append, providerOf, no]
    exact ih (fun other member => opens other (List.mem_cons_of_mem entry member)) others

theorem isLocated_iff (valid : IsModuleName name) (opens : ArchivesOpen files classpath)
    {answer : Except Failure (Option Path)} :
    IsLocated files classpath name answer ↔ providerOf files name classpath = answer := by
  constructor
  · intro located
    cases located with
    | @found front back entry split passed provides allowed =>
      subst split
      have yes := (entryProvides_decides valid (opens entry (by simp))).eq_yes provides
        fun e ⟨why, refuses, _⟩ => allowed why refuses
      rw [providerOf_passed valid _ opens passed, providerOf, yes]
      rfl
    | missing passed =>
      rw [← List.append_nil classpath] at opens ⊢
      exact providerOf_passed valid [] opens passed
    | @refused front back entry e split passed refuses =>
      subst split
      have refused := (entryProvides_decides valid (opens entry (by simp))).eq_refused ⟨e, refuses, rfl⟩
      rw [providerOf_passed valid _ opens passed, providerOf, refused]
      rfl
  · rintro rfl
    exact providerOf_isLocated valid opens

theorem nameTooLong_of_entryProvides {e : Failure}
    (opens : ∀ content, files.status? entry.text = .ok (some (.file content)) → Archive.Opens content)
    (failed : entryProvides files entry name = .error e) :
    ∃ path, e = .file (.refused .nameTooLong path) := by
  unfold entryProvides at failed
  cases shown : files.status? entry.text with
  | error refused =>
    obtain ⟨path, rfl⟩ := nameTooLong_of_status shown
    rw [shown] at failed
    exact ⟨path, (Except.error.inj failed).symm⟩
  | ok x =>
    rw [shown] at failed
    rcases x with _ | (content | target | _)
    case none => cases failed
    case some.link => cases failed
    case some.directory =>
      have decides : Decides (directoryProvides moduleSuffixes files entry name) _ _ :=
        directoryProvides_of_entered shown
      dsimp only at failed
      generalize directoryProvides moduleSuffixes files entry name = answer at decides failed
      cases decides with
      | yes | no => cases failed
      | refused why =>
        obtain ⟨path, rfl⟩ := ((why _).mpr rfl).nameTooLong
        exact ⟨path, (Except.error.inj failed).symm⟩
    case some.file =>
      dsimp only at failed
      rcases opens content shown with no | ⟨archive, members, read⟩
      · rw [no] at failed
        cases failed
      · rw [archive, modulesOf, read] at failed
        cases failed

theorem nameTooLong_of_isProvided (opens : ArchivesOpen files classpath) {module : String} {e : Failure}
    (failed : isProvided classpath files module = .error e) :
    ∃ path, e = .file (.refused .nameTooLong path) := by
  obtain ⟨entry, member, here⟩ := exists_of_isProvided_error failed
  exact nameTooLong_of_entryProvides (opens entry member) here

end

theorem topModule_of_isModuleName {name : String} (valid : IsModuleName name) : topModule name = name := by
  rw [topModule, splitFirst_of_absent valid.undotted]

/-- What an index may be asked for, and the end of the scope in which its archives are open. -/
inductive Request where
  | locate (module : String)
  | resolves (module : String)
  | release
  deriving DecidableEq, Repr

inductive Reply where
  | located (answer : Except Failure (Option Path))
  | resolved (answer : Except Failure Bool)
  | released

/-- The module that is asked for begins with a name. -/
def Request.IsPlain : Request → Prop
  | .locate module | .resolves module => IsModuleName (topModule module)
  | .release => True

instance (request : Request) : Decidable request.IsPlain := by
  cases request <;> unfold Request.IsPlain <;> infer_instance

namespace SymbolIndex

/-- A request to an index, with the index as it is then. -/
def serve (files : FileTree) (index : SymbolIndex) : Request → Reply × SymbolIndex
  | .locate module => let (answer, index) := index.locate files module; (.located answer, index)
  | .resolves module => let (answer, index) := index.resolves files module; (.resolved answer, index)
  | .release => (.released, index.release)

def serveAll (files : FileTree) : SymbolIndex → List Request → List Reply
  | _, [] => []
  | index, request :: rest =>
    let (reply, index) := index.serve files request
    reply :: serveAll files index rest

end SymbolIndex

/-- What a request is answered with, whatever was asked before. -/
inductive IsReply (files : FileTree) (classpath : List Path) : Request → Reply → Prop
  | located {module : String} {answer : Except Failure (Option Path)}
    (located : IsLocated files classpath (topModule module) answer) :
    IsReply files classpath (.locate module) (.located answer)
  | builtin {module : String} (builtin : topModule module ∈ builtinModules) :
    IsReply files classpath (.resolves module) (.resolved (.ok true))
  | resolved {module : String} {answer : Except Failure (Option Path)}
    (other : topModule module ∉ builtinModules)
    (located : IsLocated files classpath (topModule module) answer) :
    IsReply files classpath (.resolves module) (.resolved (answer.map (·.isSome)))
  | released : IsReply files classpath .release .released

section
variable {files : FileTree} {classpath : List Path}

theorem SymbolIndex.lookup_release (index : SymbolIndex) (entry : Path) :
    index.release.archives.lookup entry =
      (index.archives.lookup entry).map fun archive => { archive with isClosed := true } := by
  obtain ⟨entries, archives⟩ := index
  unfold SymbolIndex.release
  induction archives with
  | nil => rfl
  | cons first rest ih =>
    rw [List.map_cons, List.lookup_cons, List.lookup_cons]
    cases entry == first.1 with
    | true => rfl
    | false => exact ih

theorem Remembers.release {index : SymbolIndex} (remembers : Remembers files index.archives) :
    Remembers files index.release.archives := by
  intro entry archive known
  rw [SymbolIndex.lookup_release, Option.map_eq_some_iff] at known
  obtain ⟨opened, known, rfl⟩ := known
  exact remembers entry opened known

/-- An index for a classpath, whatever it was asked so far. -/
structure SymbolIndex.IsFor (index : SymbolIndex) (files : FileTree) (classpath : List Path) : Prop where
  entries : index.entries = classpath
  remembers : Remembers files index.archives

theorem isProvided_isReply (opens : ArchivesOpen files classpath) {module : String}
    (plain : IsModuleName (topModule module)) :
    IsReply files classpath (.resolves module) (.resolved (isProvided classpath files module)) := by
  unfold isProvided
  by_cases builtin : topModule module ∈ builtinModules
  · rw [if_pos (by simpa using builtin)]
    exact .builtin builtin
  · rw [if_neg (by simpa using builtin), providedBy_eq]
    exact .resolved builtin (providerOf_isLocated plain opens)

theorem SymbolIndex.IsFor.serve {index : SymbolIndex} (isFor : index.IsFor files classpath)
    (opens : ArchivesOpen files classpath) {request : Request} (plain : request.IsPlain) :
    IsReply files classpath request (index.serve files request).1 ∧
      (index.serve files request).2.IsFor files classpath := by
  obtain ⟨rfl, remembers⟩ := isFor
  cases request with
  | locate module =>
    obtain ⟨archives, remembers', located⟩ := SymbolIndex.locate_run remembers module
    simp only [SymbolIndex.serve, located]
    exact ⟨.located (providerOf_isLocated plain opens), rfl, remembers'⟩
  | resolves module =>
    obtain ⟨archives, remembers', resolved⟩ := SymbolIndex.resolves_run remembers module
    simp only [SymbolIndex.serve, resolved]
    exact ⟨isProvided_isReply opens plain, rfl, remembers'⟩
  | release => exact ⟨.released, rfl, remembers.release⟩

/-- Whatever an index is asked, and in whichever order, it is at the first entry of the classpath that
provides a module that this is found; where an entry before cannot be asked, that is told. -/
theorem serveAll_replies (opens : ArchivesOpen files classpath) {requests : List Request}
    (plain : ∀ request ∈ requests, request.IsPlain) :
    List.Forall₂ (IsReply files classpath) requests
      ((SymbolIndex.ofEntries classpath).serveAll files requests) := by
  have start : (SymbolIndex.ofEntries classpath).IsFor files classpath := ⟨rfl, .nothing files⟩
  generalize SymbolIndex.ofEntries classpath = index at start
  induction requests generalizing index with
  | nil => exact .nil
  | cons request rest ih =>
    obtain ⟨reply, next⟩ := start.serve opens (plain request List.mem_cons_self)
    exact .cons reply (ih (fun other member => plain other (List.mem_cons_of_mem request member)) _ next)

end

/-- Files and archives for a classpath. -/
def sampleLibraries : FileTree :=
  ⟨[(["z.zip"], .file (Archive.ofNames ["pkg/x.py", "b.so"])), (["note"], .file []),
    (["lib"], .directory), (["lib", "a.py"], .file []), (["lib", "pkg"], .directory)], [], .plain⟩

/-- A classpath with an entry that is not there, one that provides nothing, and one twice. -/
def sampleClasspath : List Path := ["none", "note", "z.zip", "lib", "z.zip"].map Path.ofString

theorem sampleClasspath_replies :
    sampleLibraries.IsSound ∧ ArchivesOpen sampleLibraries sampleClasspath ∧
      List.Forall₂ (IsReply sampleLibraries sampleClasspath)
        [.locate "a", .locate "pkg.x", .release, .locate "pkg", .resolves "sys", .resolves "other"]
        ((SymbolIndex.ofEntries sampleClasspath).serveAll sampleLibraries
          [.locate "a", .locate "pkg.x", .release, .locate "pkg", .resolves "sys", .resolves "other"]) :=
  have opens : ArchivesOpen sampleLibraries sampleClasspath := by decide +kernel
  ⟨by decide +kernel, opens, serveAll_replies opens (by decide +kernel)⟩

def emptyLibrary : FileTree := ⟨[(["lib"], .directory)], [], .plain⟩

/-- A name that is too long for a file is not told to be absent. -/
theorem providerOf_nameOfLength {n : Nat} (long : maxNameLength < n) :
    ¬ Provides emptyLibrary (Path.ofString "lib") (nameOfLength n) ∧
      ∃ path, providerOf emptyLibrary (nameOfLength n) [Path.ofString "lib"] =
        .error (.file (.refused .nameTooLong path)) := by
  have valid : IsModuleName (nameOfLength n) := isModuleName_nameOfLength (Nat.ne_zero_of_lt long)
  have normal : (Path.ofString "lib").IsNormal := Path.isNormal_ofString "lib"
  have located : emptyLibrary.locate true (Path.ofString "lib").text = .ok (.found ["lib"] .directory) := by
    rfl
  have entered : emptyLibrary.status? (Path.ofString "lib").text = .ok (some .directory) := by rfl
  have unlinked : emptyLibrary.IsUnlinked := by decide
  have opened : ArchivesOpen emptyLibrary [Path.ofString "lib"] := by decide +kernel
  have noArchive {members : List String} : ¬ IsArchiveOf emptyLibrary (Path.ofString "lib") members :=
    fun ⟨content, shown, _⟩ => nomatch entered.symm.trans shown
  have refused (suffix : String) (undivided : '/' ∉ suffix.toList) (plain : '\x00' ∉ suffix.toList) :
      emptyLibrary.status? ((Path.ofString "lib").child (nameOfLength n ++ suffix)).text =
        .error (.refused .nameTooLong ((Path.ofString "lib").child (nameOfLength n ++ suffix)).text) := by
    refine status?_of_isTooLong normal located (valid.isNormalPart_append undivided)
      (by simp [nameOfLength_absent, plain]) (unlinked.get?_ne _) (.inr ?_)
    rw [String.utf8ByteSize_append, utf8ByteSize_nameOfLength]
    omega
  have refusedName := refused "" (by simp) (by simp)
  rw [String.append_empty] at refusedName
  constructor
  · intro provides
    cases provides with
    | directory _ there => exact nomatch refusedName.symm.trans there
    | @file suffix _ _ known there =>
      have plain : ∀ suffix ∈ moduleSuffixes, '\x00' ∉ suffix.toList := by decide
      exact nomatch (refused suffix (moduleSuffixes_undivided _ known) (plain _ known)).symm.trans there
    | below archive | member archive => exact noArchive archive
  · have whole : [Path.ofString "lib"] = [] ++ Path.ofString "lib" :: [] := rfl
    exact ⟨_, (isLocated_iff valid opened).mp
      (.refused whole (List.forall_mem_nil _) (.directory entered refusedName))⟩

/-- A module whose name is too long for a file: no entry provides it, but it is not missed either. -/
theorem long_name_not_missed :
    ArchivesOpen emptyLibrary [Path.ofString "lib"] ∧ IsModuleName (topModule (nameOfLength 256)) ∧
      ¬ Provides emptyLibrary (Path.ofString "lib") (topModule (nameOfLength 256)) ∧
      ((SymbolIndex.ofEntries [Path.ofString "lib"]).locate emptyLibrary (nameOfLength 256)).1 ≠
        .ok none := by
  have valid : IsModuleName (nameOfLength 256) := isModuleName_nameOfLength (by decide)
  obtain ⟨missing, path, told⟩ := providerOf_nameOfLength (show maxNameLength < 256 by decide)
  have start : Remembers emptyLibrary (SymbolIndex.ofEntries [Path.ofString "lib"]).archives :=
    .nothing emptyLibrary
  obtain ⟨archives, -, ran⟩ := SymbolIndex.locate_run start (nameOfLength 256)
  rw [topModule_of_isModuleName valid] at ran ⊢
  refine ⟨by decide +kernel, valid, missing, ?_⟩
  rw [ran]
  exact fun same => nomatch told.symm.trans same

end PluginBuild
