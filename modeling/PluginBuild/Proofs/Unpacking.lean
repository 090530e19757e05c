import PluginBuild.Proofs.Members

/-!
An archive and the directory that it unpacks to. In the archive a module is read off the names of the
members, in the directory its files are asked for one after the other. Both find the same modules,
unless the directory is asked for a name or a path that is too long.
-/

namespace PluginBuild

open PluginBuild.Files PluginBuild.Text

section
variable {t : FileTree} {entry : Path} {place : Place} {members suffixes : List String} {name : String}

theorem IsUnpacked.isFileName (unpacked : IsUnpacked t place members) (tree : DenotesTree members)
    {x : Entry} (there : t.get? (place ++ [name]) = some x) : IsFileName name := by
  have some : [name] ≠ ([] : Place) := List.cons_ne_nil _ _
  cases x with
  | file content =>
    obtain ⟨member, listed, -, same⟩ := (unpacked.file _ some).mp ⟨content, there⟩
    exact tree.named member listed name (by simp [same])
  | link target => exact absurd there (unpacked.unlinked _ some target)
  | directory =>
    obtain ⟨member, listed, before, -⟩ := (unpacked.directory _ some).mp there
    exact tree.named member listed name (before.subset (List.mem_singleton_self name))

theorem IsUnpacked.status? (unpacked : IsUnpacked t place members) (tree : DenotesTree members)
    (normal : entry.IsNormal) (located : t.locate true entry.text = .ok (.found place .directory))
    (part : Path.IsNormalPart name) (down : name ≠ "..") :
    t.status? (entry.child name).text = .ok (t.get? (place ++ [name])) ∨
      IsTooLong entry name ∧ t.status? (entry.child name).text =
        .error (.refused .nameTooLong (entry.child name).text) := by
  rw [FileTree.status?_child_of_locate normal part down located (unpacked.unlinked _ (by simp)),
    FileTree.childStatus]
  split
  · rename_i null
    -- no entry has a null character in its name
    refine .inl (congrArg Except.ok ?_)
    cases there : t.get? (place ++ [name]) with
    | none => rfl
    | some x =>
      have plain := (unpacked.isFileName tree there).noNull
      have usable := (FileTree.locate_eq_ok_iff.mp located).1
      exact absurd (by simpa using null) (noNull_child normal usable part plain)
  · split
    · rename_i long
      exact .inr ⟨long, rfl⟩
    · exact .inl rfl

theorem IsUnpacked.decides (unpacked : IsUnpacked t place members)
    (tree : DenotesTree members) (normal : entry.IsNormal)
    (located : t.locate true entry.text = .ok (.found place .directory))
    (part : Path.IsNormalPart name ∧ name ≠ "..") :
    Decides (t.isDirectory (entry.child name).text) (HoldsDirectory members [name])
        (fun e => t.status? (entry.child name).text = .error e) ∧
      Decides (t.isFile (entry.child name).text) (HoldsFile members [name])
        (fun e => t.status? (entry.child name).text = .error e) := by
  have some : [name] ≠ ([] : Place) := List.cons_ne_nil _ _
  have known (x : Option Entry) (shown : t.status? (entry.child name).text = .ok x) :
      t.get? (place ++ [name]) = x := by
    rcases unpacked.status? tree normal located part.1 part.2 with known | ⟨-, refused⟩
    · exact Except.ok.inj (known.symm.trans shown)
    · exact nomatch shown.symm.trans refused
  constructor
  · refine isDirectory_decides fun x shown => ?_
    rw [← unpacked.directory _ some, known x shown]
  · refine isFile_decides fun x shown => ?_
    rw [← unpacked.file _ some, known x shown]

/-- An archive and the directory that its members unpack to have the same modules at the top. A look-up
in the directory is refused only for a name or a path that is too long. -/
theorem directoryProvides_unpacked (endings : AreEndings suffixes)
    (undivided : ∀ suffix ∈ suffixes, '/' ∉ suffix.toList) (tree : DenotesTree members)
    (valid : IsModuleName name) (normal : entry.IsNormal)
    (located : t.locate true entry.text = .ok (.found place .directory))
    (unpacked : IsUnpacked t place members) :
    (∀ provides, directoryProvides suffixes t entry name = .ok provides →
      (provides = true ↔ name ∈ modulesOfMembers suffixes members)) ∧
    ∀ e, directoryProvides suffixes t entry name = .error e →
      ∃ probe ∈ name :: suffixes.map (name ++ ·), IsTooLong entry probe ∧
        e = .refused .nameTooLong (entry.child probe).text := by
  have normalPart : ∀ suffix ∈ suffixes, Path.IsNormalPart (name ++ suffix) ∧ name ++ suffix ≠ ".." :=
    fun suffix listed => valid.isNormalPart_append (undivided suffix listed)
  have decides := directoryProvides_decides (unpacked.decides tree normal located valid.isNormalPart).1
    fun suffix listed => (unpacked.decides tree normal located (normalPart suffix listed)).2
  constructor
  · intro provides answer
    rw [answer] at decides
    rw [decides.ok_iff, mem_modulesOfMembers endings valid, holdsDirectory_singleton valid.undivided]
    refine or_congr_right (exists_congr fun suffix => and_congr_right fun listed => ?_)
    have absent := (normalPart suffix listed).1.noSeparator
    rw [holdsFile_singleton absent, and_iff_right absent]
  · intro e answer
    have tooLong {probe : String} (part : Path.IsNormalPart probe ∧ probe ≠ "..")
        (refused : t.status? (entry.child probe).text = .error e) :
        IsTooLong entry probe ∧ e = .refused .nameTooLong (entry.child probe).text := by
      rcases unpacked.status? tree normal located part.1 part.2 with known | ⟨long, refused'⟩
      · exact nomatch refused.symm.trans known
      · exact ⟨long, Except.error.inj (refused.symm.trans refused')⟩
    rw [answer] at decides
    cases decides with
    | refused why =>
      rcases (why e).mpr rfl with refused | ⟨-, before, suffix, after, split, -, refused⟩
      · exact ⟨name, List.mem_cons_self, tooLong valid.isNormalPart refused⟩
      · have listed : suffix ∈ suffixes := by simp [split]
        exact ⟨name ++ suffix, List.mem_cons_of_mem _ (List.mem_map_of_mem listed),
          tooLong (normalPart suffix listed) refused⟩

end

/-- An archive with overlapping endings, a package and a directory that is named itself. -/
def sampleMembers : List String :=
  ["a.abi3.so", "a.b.py", "pkg/__init__.py", "pkg/a.py", "empty/", "x.py/y"]

theorem sampleMembers_unpacked :
    DenotesTree sampleMembers ∧ (unpack sampleMembers).IsSound ∧
      directoryProvides moduleSuffixes (unpack sampleMembers) ⟨.root, []⟩ "a" = .ok true ∧
      "a" ∈ modulesOfMembers moduleSuffixes sampleMembers := by
  have tree : DenotesTree sampleMembers := by decide +kernel
  have valid : IsModuleName "a" := by decide
  have normal : (⟨.root, []⟩ : Path).IsNormal := by simp [Path.IsNormal]
  have answer : directoryProvides moduleSuffixes (unpack sampleMembers) ⟨.root, []⟩ "a" = .ok true := by
    decide +kernel
  have located : (unpack sampleMembers).locate true (⟨.root, []⟩ : Path).text =
      .ok (.found [] .directory) := by rfl
  have same := directoryProvides_unpacked moduleSuffixes_areEndings moduleSuffixes_undivided tree valid
    normal located (isUnpacked_unpack tree)
  exact ⟨tree, isSound_unpack tree (by decide +kernel), answer, (same.1 true answer).mp rfl⟩

section
variable {n : Nat}

theorem denotesTree_nameOfLength (positive : n ≠ 0) : DenotesTree [nameOfLength n ++ ".so"] := by
  have part := (isModuleName_nameOfLength positive).isNormalPart_append
    (show '/' ∉ (".so" : String).toList by decide)
  have noNull : '\x00' ∉ (nameOfLength n ++ ".so").toList := by simp [nameOfLength_absent]
  have place := (memberPlace_of_absent part.1.noSeparator).2
  constructor
  · intro member listed name inside
    rw [List.mem_singleton.mp listed, place] at inside
    obtain rfl := List.mem_singleton.mp inside
    exact ⟨part.1.ne_empty, part.1.ne_here, part.2, part.1.noSeparator, noNull⟩
  · intro file listed _ member listed' _
    rw [List.mem_singleton.mp listed, List.mem_singleton.mp listed']

/-- A file at the top of an archive is not found in the directory that it unpacks to if its name is too
long with an ending that is asked for before. -/
theorem unpacked_refuses (long : 251 < n) :
    nameOfLength n ∈ modulesOfMembers moduleSuffixes [nameOfLength n ++ ".so"] ∧
      ∀ provides, directoryProvides moduleSuffixes (unpack [nameOfLength n ++ ".so"]) ⟨.root, []⟩
        (nameOfLength n) ≠ .ok provides := by
  have positive : n ≠ 0 := by omega
  have valid := isModuleName_nameOfLength positive
  constructor
  · rw [mem_modulesOfMembers moduleSuffixes_areEndings valid]
    exact .inr ⟨".so", by decide, by simp [nameOfLength_absent], List.mem_singleton_self _⟩
  · intro provides answer
    have normal : (⟨.root, []⟩ : Path).IsNormal := by simp [Path.IsNormal]
    have located : (unpack [nameOfLength n ++ ".so"]).locate true (⟨.root, []⟩ : Path).text =
        .ok (.found [] .directory) := by rfl
    have tree := denotesTree_nameOfLength positive
    have unpacked := isUnpacked_unpack tree
    have part (suffix : String) (listed : suffix ∈ moduleSuffixes) :
        Path.IsNormalPart (nameOfLength n ++ suffix) ∧ nameOfLength n ++ suffix ≠ ".." :=
      valid.isNormalPart_append (moduleSuffixes_undivided suffix listed)
    have decides := directoryProvides_decides (unpacked.decides tree normal located valid.isNormalPart).1
      fun suffix listed => (unpacked.decides tree normal located (part suffix listed)).2
    rw [answer] at decides
    have tooLong : IsTooLong ⟨.root, []⟩ (nameOfLength n ++ ".pyc") := by
      refine .inr ?_
      have four : (".pyc" : String).utf8ByteSize = 4 := by rfl
      rw [String.utf8ByteSize_append, utf8ByteSize_nameOfLength, four, maxNameLength]
      omega
    have refused := status?_of_isTooLong normal located (part ".pyc" (by decide))
      (by simp [nameOfLength_absent]) (unpacked.unlinked _ (by simp)) tooLong
    have noDirectory : ¬ HoldsDirectory [nameOfLength n ++ ".so"] [nameOfLength n] := by
      rw [holdsDirectory_singleton valid.undivided]
      rintro ⟨rest, listed⟩
      have divided := congrArg String.toList (List.mem_singleton.mp listed)
      have absent := (part ".so" (by decide)).1.noSeparator
      rw [← divided] at absent
      simp at absent
    have noFile : ¬ HoldsFile [nameOfLength n ++ ".so"] [nameOfLength n ++ ".py"] := by
      rw [holdsFile_singleton (part ".py" (by decide)).1.noSeparator, List.mem_singleton,
        String.append_right_inj]
      decide
    -- Of the names that are tried, the directory and the one with `.py` have a no; the next is refused.
    have passed := And.intro noDirectory fun e refused => decides.allowed e (.inl refused)
    have passed' := And.intro noFile fun e refused =>
      decides.allowed e (.inr ⟨passed, [], ".py", _, rfl, List.forall_mem_nil _, refused⟩)
    exact decides.allowed _ (.inr ⟨passed, [".py"], ".pyc", _, rfl, by simpa using passed', refused⟩)

end

/-- A name that is too long with an earlier ending, and an ending that looks into another directory. -/
theorem unpacked_differs :
    (nameOfLength 252 ∈ modulesOfMembers moduleSuffixes [nameOfLength 252 ++ ".so"] ∧
      IsUnpacked (unpack [nameOfLength 252 ++ ".so"]) [] [nameOfLength 252 ++ ".so"] ∧
      ∀ provides, directoryProvides moduleSuffixes (unpack [nameOfLength 252 ++ ".so"]) ⟨.root, []⟩
        (nameOfLength 252) ≠ .ok provides) ∧
    AreEndings [".a/b"] ∧ IsUnpacked (unpack ["x.a/b"]) [] ["x.a/b"] ∧
      "x" ∉ modulesOfMembers [".a/b"] ["x.a/b"] ∧
      directoryProvides [".a/b"] (unpack ["x.a/b"]) ⟨.root, []⟩ "x" = .ok true := by
  obtain ⟨provided, refused⟩ := unpacked_refuses (show 251 < 252 by decide)
  refine ⟨⟨provided, isUnpacked_unpack (denotesTree_nameOfLength (by decide)), refused⟩, by decide,
    isUnpacked_unpack (by decide +kernel), by decide +kernel, by decide +kernel⟩

end PluginBuild
