import PluginBuild.Proofs.Assembly
import PluginBuild.Proofs.Frame.Misspelt
import PluginBuild.Target

/-!
The name of the class that a script becomes. The manifest and the path of the artifact have the name as it
is made from the name of the file; in the module that is compiled stands the identifier that a reader of
the frame takes it for, which is its compatibility form. The two are the same where the name is its own.
-/

namespace PluginBuild

open PluginBuild.Script PluginBuild.Script.Lexer PluginBuild.Text

namespace Text

theorem ascii_names {c : Char} (ascii : c.toNat < 128) :
    (isWord c = true → continuesName c = true) ∧ (isWord c = true → isDigit c = false → beginsName c = true) ∧
      (beginsName c = true → beginsName c.toUpper = true) :=
  ascii_forall (p := fun c => (isWord c = true → continuesName c = true) ∧
    (isWord c = true → isDigit c = false → beginsName c = true) ∧
    (beginsName c = true → beginsName c.toUpper = true)) (by decide +kernel) ascii

theorem continuesName_of_isWord {c : Char} (word : isWord c = true) : continuesName c = true := by
  by_cases ascii : c.toNat < 128
  · exact (ascii_names ascii).1 word
  · have wide : 128 ≤ c.toNat := Nat.le_of_not_lt ascii
    simp [continuesName, beginsName, wide]

theorem beginsName_of_isWord {c : Char} (word : isWord c = true) (noDigit : isDigit c = false) :
    beginsName c = true := by
  by_cases ascii : c.toNat < 128
  · exact (ascii_names ascii).2.1 word noDigit
  · have wide : 128 ≤ c.toNat := Nat.le_of_not_lt ascii
    simp [beginsName, wide]

theorem upperExpansions_begin : ∀ letters ∈ upperExpansions,
    letters.2 ≠ [] ∧ ∀ n ∈ letters.2, beginsName (Char.ofNat n) = true := by
  decide +kernel

theorem upperRuns_begin : ∀ run ∈ upperRuns, 128 ≤ run.target ∨
    run.first = run.last ∧ beginsName (Char.ofNat run.target) = true := by
  decide +kernel

theorem CaseRun.beginsName_image? {run : CaseRun} (member : run ∈ upperRuns) {n image : Nat}
    (found : run.image? n = some image) : beginsName (Char.ofNat image) = true := by
  unfold CaseRun.image? at found
  split at found
  · rename_i inRun
    have same : run.target + (n - run.first) = image := Option.some.inj found
    simp only [Bool.and_eq_true, decide_eq_true_eq] at inRun
    rcases upperRuns_begin run member with wide | ⟨single, begins⟩
    · have valid : image.isValidChar := by
        rcases upperRuns_above_slash run member with below | above
        · exact Or.inl (by omega)
        · exact Or.inr (by omega)
      have wide' : 128 ≤ (Char.ofNat image).toNat := by
        rw [toNat_ofNat_of_valid valid]
        omega
      simp [beginsName, wide']
    · obtain rfl : run.target = image := by omega
      exact begins
  · cases found

theorem beginsName_upper {c : Char} (begins : beginsName c = true) :
    upper c ≠ [] ∧ ∀ d ∈ upper c, beginsName d = true := by
  unfold upper
  split
  · rename_i ascii
    refine ⟨List.cons_ne_nil _ _, List.forall_mem_singleton.mpr ?_⟩
    exact (ascii_names ascii).2.2 begins
  · split
    · rename_i letters found
      obtain ⟨some, each⟩ := upperExpansions_begin _ (mem_of_lookup found)
      exact ⟨by simpa using some, List.forall_mem_map.mpr each⟩
    · split
      · rename_i n found
        obtain ⟨run, member, image⟩ := List.exists_of_findSome?_eq_some found
        exact ⟨List.cons_ne_nil _ _, List.forall_mem_singleton.mpr (CaseRun.beginsName_image? member image)⟩
      · exact ⟨List.cons_ne_nil _ _, List.forall_mem_singleton.mpr begins⟩

end Text

namespace PluginClass

theorem continuesName_wordsOnly (text : List Char) : ∀ c ∈ wordsOnly text, continuesName c = true := by
  intro c member
  obtain ⟨d, -, rfl⟩ := List.mem_map.mp member
  split
  · rename_i word
    exact continuesName_of_isWord word
  · rfl

theorem isWordText_nameOf (path : Path) : IsWordText (nameOf path) := by
  have words := continuesName_wordsOnly path.stem.toList
  have onlyWords : ∀ c ∈ wordsOnly path.stem.toList, isWord c = true := by
    intro c member
    obtain ⟨d, -, rfl⟩ := List.mem_map.mp member
    split
    · assumption
    · rfl
  unfold nameOf nameOfStem
  split
  · exact ⟨⟨'_', [], String.toList_ofList, rfl⟩, by simp [continuesName, beginsName]⟩
  · rename_i c rest found
    rw [found] at words onlyWords
    split
    · refine ⟨⟨'_', c :: rest, String.toList_ofList, rfl⟩, ?_⟩
      rw [String.toList_ofList]
      exact List.forall_mem_cons.mpr ⟨rfl, words⟩
    · rename_i noDigit
      have begins := beginsName_of_isWord (onlyWords c List.mem_cons_self) (Bool.not_eq_true _ ▸ noDigit)
      obtain ⟨some, each⟩ := beginsName_upper begins
      obtain ⟨first, further, same⟩ := List.exists_cons_of_ne_nil some
      constructor
      · refine ⟨first, further ++ rest, by rw [String.toList_ofList, same]; rfl, ?_⟩
        exact each first (same ▸ List.mem_cons_self)
      · rw [String.toList_ofList]
        refine List.forall_mem_append.mpr ⟨fun d member => ?_, (List.forall_mem_cons.mp words).2⟩
        rw [continuesName, each d member, Bool.true_or]

theorem getLast?_names {c : PluginClass} (plain : IsPlain c.name.toList) :
    (split '.' c.qualifiedName).getLast? = some c.name ∧
      (split '/' (Target.bytecode.artifactPath c.qualifiedName)).getLast? = some (c.name ++ ".pyc") := by
  have noDot : '.' ∉ c.name.toList := plain.absent (by decide)
  have noSlash : '/' ∉ (c.name ++ ".pyc").toList := by
    rw [String.toList_append, List.mem_append]
    rintro (inName | inEnding)
    · exact plain.absent (by decide) inName
    · exact absurd inEnding (by decide)
  rw [Target.artifactPath, show Target.bytecode.suffix = ".pyc" from rfl, qualifiedName]
  split
  · rw [split_of_absent noDot, replaceChar_of_absent noDot, split_of_absent noSlash]
    exact ⟨rfl, rfl⟩
  · have replaced : replaceChar '.' ['/'] (c.package ++ "." ++ c.name) ++ ".pyc" =
        replaceChar '.' ['/'] c.package ++ "/" ++ (c.name ++ ".pyc") := by
      rw [replaceChar_append, replaceChar_append, replaceChar_of_absent noDot, String.append_assoc,
        String.append_assoc, String.append_assoc]
      rfl
    rw [replaced, split_append rfl, split_append rfl, split_of_absent noDot, split_of_absent noSlash]
    simp

end PluginClass

def Script.Module.classNames (m : Module) : List String :=
  m.body.filterMap fun
    | .class _ name _ _ _ _ => some name
    | _ => none

section
variable {m result : Module} {c : PluginClass} {t : Template} {path : Path}

theorem isIdentifier_of_assembled (ofFile : c.name = PluginClass.nameOf path)
    (module : ∀ part ∈ split '.' t.module, isIdentifier part = true)
    (base : ∀ part ∈ split '.' t.name, isIdentifier part = true) (receiver : isIdentifier t.receiver = true)
    (assembled : assemble m c t = .ok result) : isIdentifier c.name = true := by
  obtain ⟨frame, read, -⟩ := assemble_ok assembled
  have word : IsWordText c.name := ofFile ▸ PluginClass.isWordText_nameOf path
  by_contra bad
  rw [Bool.not_eq_true] at bad
  obtain ⟨e, failed⟩ := Frame.frameStatements_misspelt module base receiver word bad (methodStatements m)
  exact nomatch read.symm.trans failed

theorem classNames_of_assembled (names : HasIdentifiers c t) (assembled : assemble m c t = .ok result) :
    result.classNames = [identifierOf c.name] := by
  obtain ⟨frame, read, body⟩ := assemble_ok assembled
  rw [Frame.frameStatements_of_ok names read] at body
  have none : (futureImports m).filterMap (fun
      | .class _ name _ _ _ _ => some name
      | _ => (none : Option String)) = [] := by
    refine List.filterMap_eq_nil_iff.mpr fun s member => ?_
    have imports := (List.mem_filter.mp member).2
    cases s <;> first | rfl | exact nomatch imports
  rw [Module.classNames, body, List.filterMap_append, none]
  rfl

theorem identifierOf_ascii {word : String} (ascii : ∀ c ∈ word.toList, c.toNat < 128) :
    identifierOf word = word :=
  if_pos (List.all_eq_true.mpr fun c member => decide_eq_true (ascii c member))

/-- The name of the class that a file becomes is the last part of the qualified name and, with the ending of
compiled files, of the path of the artifact. A module that is put together for it has one class, whose name
is the identifier that the name stands for: this is the name itself exactly if the name is its own
identifier, as it is if its characters are ASCII. -/
theorem assembled_class_name (ofFile : c.name = PluginClass.nameOf path)
    (module : ∀ part ∈ split '.' t.module, isIdentifier part = true)
    (base : ∀ part ∈ split '.' t.name, isIdentifier part = true) (receiver : isIdentifier t.receiver = true)
    (assembled : assemble m c t = .ok result) :
    (split '.' c.qualifiedName).getLast? = some c.name ∧
    (split '/' (Target.bytecode.artifactPath c.qualifiedName)).getLast? = some (c.name ++ ".pyc") ∧
    isIdentifier c.name = true ∧ result.classNames = [identifierOf c.name] ∧
    (result.classNames = [c.name] ↔ identifierOf c.name = c.name) ∧
    ((∀ d ∈ c.name.toList, d.toNat < 128) → result.classNames = [c.name]) := by
  have identifier := isIdentifier_of_assembled ofFile module base receiver assembled
  have named := classNames_of_assembled ⟨module, identifier, base, receiver⟩ assembled
  have plain : IsPlain c.name.toList := ofFile ▸ PluginClass.isPlain_nameOf path
  obtain ⟨qualified, artifact⟩ := PluginClass.getLast?_names plain
  refine ⟨qualified, artifact, identifier, named, ?_, fun ascii => ?_⟩
  · rw [named]
    exact ⟨fun same => (List.cons.inj same).1, fun same => congrArg (fun name => [name]) same⟩
  · rw [named, identifierOf_ascii ascii]

end

theorem exists_assembled (c : PluginClass) (holds : Module → Bool)
    (computed : (match Module.parse "x = 1\n".toList false with
      | .ok m => match assemble m c .plugin with
        | .ok result => holds result
        | .error _ => false
      | .error _ => false) = true) :
    ∃ m result, Module.parse "x = 1\n".toList false = .ok m ∧ assemble m c .plugin = .ok result ∧
      holds result = true := by
  split at computed
  · rename_i m parsed
    split at computed
    · rename_i result assembled
      exact ⟨m, result, parsed, assembled, computed⟩
    · exact nomatch computed
  · exact nomatch computed

/-- A file with an ASCII name, in a package. -/
theorem assembled_class_name_of_sample : ∃ m result,
    Module.parse "x = 1\n".toList false = .ok m ∧
    assemble m ⟨"Hello_plugin", "a.b"⟩ .plugin = .ok result ∧
    PluginClass.nameOf (Path.ofString "in/hello.plugin.py") = "Hello_plugin" ∧
    result.classNames = ["Hello_plugin"] := by
  obtain ⟨m, result, parsed, assembled, -⟩ := exists_assembled ⟨"Hello_plugin", "a.b"⟩ (fun _ => true)
    (by decide +kernel)
  have name : PluginClass.nameOf (Path.ofString "in/hello.plugin.py") = "Hello_plugin" := by decide +kernel
  have identifiers : (∀ part ∈ split '.' Template.plugin.module, isIdentifier part = true) ∧
      (∀ part ∈ split '.' Template.plugin.name, isIdentifier part = true) ∧
      isIdentifier Template.plugin.receiver = true := by decide +kernel
  obtain ⟨module, base, receiver⟩ := identifiers
  obtain ⟨-, -, -, -, -, ascii⟩ := assembled_class_name name.symm module base receiver assembled
  have letters : "Hello_plugin".toList.all (fun d => decide (d.toNat < 128)) = true := by decide +kernel
  refine ⟨m, result, parsed, assembled, name, ascii fun d member => ?_⟩
  exact of_decide_eq_true (List.all_eq_true.mp letters d member)

/-- A file whose name is the ordinal indicator: the class in the module has a plain letter instead. -/
theorem ordinal_changes_class : ∃ m result,
    Module.parse "x = 1\n".toList false = .ok m ∧ assemble m ⟨"º", ""⟩ .plugin = .ok result ∧
    PluginClass.nameOf (Path.ofString "in/º.py") = "º" ∧
    PluginClass.qualifiedName ⟨"º", ""⟩ = "º" ∧ Target.bytecode.artifactPath "º" = "º.pyc" ∧
    result.classNames = ["o"] ∧ result.classNames ≠ ["º"] := by
  obtain ⟨m, result, parsed, assembled, named⟩ := exists_assembled ⟨"º", ""⟩
    (fun result => result.classNames == ["o"]) (by decide +kernel)
  have plain : result.classNames = ["o"] := eq_of_beq named
  exact ⟨m, result, parsed, assembled, by decide +kernel, rfl, by decide +kernel, plain, plain ▸ by decide⟩

end PluginBuild
