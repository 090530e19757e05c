import PluginBuild.Proofs.Discovery

/-!
Scripts below a directory in the order of a walk. They are given by the names that lead to them: along
directories, where links are none, to a file or to a link that does not lead to a directory.
-/

namespace PluginBuild

open PluginBuild.Files PluginBuild.Text

def walked (directory : String) (names : List String) : String := names.foldl inside directory

/-- Names of directories, each inside the one before. -/
inductive Descends (t : FileTree) : Place → List String → Prop
  | here {p : Place} : Descends t p []
  | inside {p : Place} {name : String} {rest : List String}
    (there : t.get? (p ++ [name]) = some .directory) (later : Descends t (p ++ [name]) rest) :
    Descends t p (name :: rest)

/-- Names that lead from a directory, down directories, to a script: an entry whose name ends as asked
for and that is neither a directory nor a link to one, going by its path. -/
inductive IsScript (t : FileTree) (suffix : String) : String → Place → List String → Prop
  | file {directory name : String} {p : Place} {x : Entry} (there : t.get? (p ++ [name]) = some x)
    (other : x ≠ .directory)
    (apart : ∀ target, x = .link target → ∀ q, t.locate true (inside directory name) ≠
      .ok (.found q .directory))
    (ending : endsWith name suffix = true) : IsScript t suffix directory p [name]
  | inside {directory name : String} {p : Place} {rest : List String}
    (there : t.get? (p ++ [name]) = some .directory)
    (later : IsScript t suffix (inside directory name) (p ++ [name]) rest) :
    IsScript t suffix directory p (name :: rest)

/-- What comes first in a walk: files as they are listed, then the directories as they are listed, each
with all that is in it. -/
inductive Before (t : FileTree) : Place → List String → List String → Prop
  | files {p : Place} {x y : String} (listed : List.Sublist [x, y] (t.names p)) : Before t p [x] [y]
  | fileFirst {p : Place} {x y : String} {rest : List String} (deeper : rest ≠ []) :
    Before t p [x] (y :: rest)
  | directories {p : Place} {x y : String} {one two : List String} (listed : List.Sublist [x, y] (t.names p))
    (deeper : one ≠ []) (deeper' : two ≠ []) : Before t p (x :: one) (y :: two)
  | inside {p : Place} {x : String} {one two : List String} (later : Before t (p ++ [x]) one two) :
    Before t p (x :: one) (x :: two)

def scriptsIn (t : FileTree) (suffix directory : String) (p : Place) : List String :=
  (t.names p).filter fun name => !t.isListedDirectory directory p name && endsWith name suffix

/-- The scripts below a directory, down to a depth. -/
def scriptsBelow (t : FileTree) (suffix : String) :
    (depth : Nat) → (directory : String) → (p : Place) → List (List String)
  | 0, _, _ => []
  | depth + 1, directory, p => (scriptsIn t suffix directory p).map ([·]) ++
      (t.subdirectories p).flatMap fun name =>
        (scriptsBelow t suffix depth (inside directory name) (p ++ [name])).map (name :: ·)

section
variable {t : FileTree} {suffix directory name : String} {p : Place} {names : List String} {depth : Nat}

theorem IsScript.ne_nil (script : IsScript t suffix directory p names) : names ≠ [] := by
  cases script <;> exact List.cons_ne_nil _ _

theorem isListedDirectory_eq_false {x : Entry} (there : t.get? (p ++ [name]) = some x) :
    t.isListedDirectory directory p name = false ↔ x ≠ .directory ∧
      ∀ target, x = .link target → ∀ q, t.locate true (inside directory name) ≠ .ok (.found q .directory) := by
  unfold FileTree.isListedDirectory
  rw [there]
  cases x with
  | file content => simp
  | directory => simp
  | link target =>
    dsimp only
    split
    · rename_i q found
      simp [found]
    · rename_i other
      simp only [ne_eq, reduceCtorEq, not_false_eq_true, true_and, true_iff]
      exact fun _ _ q found => other q found

theorem mem_scriptsIn : name ∈ scriptsIn t suffix directory p ↔ IsScript t suffix directory p [name] := by
  rw [scriptsIn, List.mem_filter, FileTree.mem_names, Bool.and_eq_true, Bool.not_eq_true']
  constructor
  · rintro ⟨some, file, ending⟩
    obtain ⟨x, there⟩ := Option.isSome_iff_exists.mp some
    obtain ⟨other, apart⟩ := (isListedDirectory_eq_false there).mp file
    exact .file there other apart ending
  · intro script
    cases script with
    | file there other apart ending =>
      exact ⟨by simp [there], (isListedDirectory_eq_false there).mpr ⟨other, apart⟩, ending⟩
    | inside _ later => exact absurd rfl later.ne_nil

theorem mem_scriptsBelow : names ∈ scriptsBelow t suffix depth directory p ↔
    IsScript t suffix directory p names ∧ names.length ≤ depth := by
  induction depth generalizing directory p names with
  | zero =>
    simp only [scriptsBelow, List.not_mem_nil, Nat.le_zero_eq, List.length_eq_zero_iff, false_iff, not_and]
    exact fun script => script.ne_nil
  | succ depth ih =>
    rw [scriptsBelow, List.mem_append, List.mem_map, List.mem_flatMap]
    constructor
    · rintro (⟨name, listed, rfl⟩ | ⟨name, listed, deeper⟩)
      · exact ⟨mem_scriptsIn.mp listed, by simp⟩
      · obtain ⟨rest, below, rfl⟩ := List.mem_map.mp deeper
        obtain ⟨script, short⟩ := ih.mp below
        exact ⟨.inside (FileTree.mem_subdirectories.mp listed) script, Nat.succ_le_succ short⟩
    · rintro ⟨script, short⟩
      cases script with
      | file there other apart ending =>
        exact .inl ⟨_, mem_scriptsIn.mpr (.file there other apart ending), rfl⟩
      | @inside _ name _ rest there later =>
        refine .inr ⟨name, FileTree.mem_subdirectories.mpr there, List.mem_map.mpr ⟨rest, ?_, rfl⟩⟩
        exact ih.mpr ⟨later, Nat.le_of_succ_le_succ short⟩

theorem pairwise_scriptsBelow : (scriptsBelow t suffix depth directory p).Pairwise (Before t p) := by
  induction depth generalizing directory p with
  | zero => exact .nil
  | succ depth ih =>
    have some {name : String} {rest : List String}
        (below : rest ∈ scriptsBelow t suffix depth (inside directory name) (p ++ [name])) : rest ≠ [] :=
      (mem_scriptsBelow.mp below).1.ne_nil
    rw [scriptsBelow, List.pairwise_append]
    refine ⟨?_, ?_, ?_⟩
    · rw [List.pairwise_map]
      refine List.pairwise_iff_forall_sublist.mpr fun listed => .files (listed.trans List.filter_sublist)
    · rw [List.pairwise_flatMap]
      constructor
      · intro name _
        exact List.pairwise_map.mpr (ih.imp .inside)
      · refine List.pairwise_iff_forall_sublist.mpr fun listed => ?_
        intro first one second two
        obtain ⟨rest, below, rfl⟩ := List.mem_map.mp one
        obtain ⟨rest', below', rfl⟩ := List.mem_map.mp two
        exact .directories (listed.trans List.filter_sublist) (some below) (some below')
    · intro first one second two
      obtain ⟨x, -, rfl⟩ := List.mem_map.mp one
      obtain ⟨y, -, deeper⟩ := List.mem_flatMap.mp two
      obtain ⟨rest, below, rfl⟩ := List.mem_map.mp deeper
      exact .fileFirst (some below)

theorem Before.ne (sound : t.IsSound) {one two : List String} (before : Before t p one two) :
    one ≠ two := by
  induction before with
  | files listed | directories listed =>
    rintro ⟨⟩
    exact absurd (listed.nodup (FileTree.nodup_names sound _)) (by simp)
  | fileFirst deeper =>
    rintro ⟨⟩
    exact deeper rfl
  | inside _ ih =>
    rintro ⟨⟩
    exact ih rfl

theorem nodup_scriptsBelow (sound : t.IsSound) : (scriptsBelow t suffix depth directory p).Nodup :=
  pairwise_scriptsBelow.imp (Before.ne sound)

theorem filter_scriptsBelow {less : Nat} (le : less ≤ depth) :
    (scriptsBelow t suffix depth directory p).filter (fun names => names.length ≤ less) =
      scriptsBelow t suffix less directory p := by
  induction depth generalizing less directory p with
  | zero =>
    obtain rfl := Nat.le_zero.mp le
    rfl
  | succ depth ih =>
    cases less with
    | zero =>
      refine List.filter_eq_nil_iff.mpr fun names listed => ?_
      have some := (mem_scriptsBelow.mp listed).1.ne_nil
      simpa using some
    | succ less =>
      rw [scriptsBelow, scriptsBelow, List.filter_append, List.filter_flatMap]
      congr 1
      · rw [List.filter_eq_self]
        intro names listed
        obtain ⟨name, -, rfl⟩ := List.mem_map.mp listed
        simp
      · refine List.flatMap_congr fun name _ => ?_
        rw [List.filter_map, ← ih (Nat.le_of_succ_le_succ le)]
        refine congrArg _ (List.filter_congr fun rest _ => ?_)
        simp

end

end PluginBuild
