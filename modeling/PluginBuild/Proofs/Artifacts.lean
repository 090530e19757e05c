import PluginBuild.Generation
import PluginBuild.Proofs.Paths
import PluginBuild.Proofs.Text.NameCharacters

/-!
The files that a script is compiled to, by the names on the way to them: one for the class, and one
in each package that the class lies in. All of them lie below the directory they are written to.
-/

namespace PluginBuild

open PluginBuild.Files PluginBuild.Text

def packageParts (package : String) : List String := if package = "" then [] else split '.' package

/-- A class as a script without faults declares it: its name is plain, and its package is empty or
the name of a package. -/
structure PluginClass.IsSound (c : PluginClass) : Prop where
  name : IsPlain c.name.toList
  package : c.package = "" ∨ ∀ part ∈ split '.' c.package, isIdentifier part = true

theorem isFileName_of_isPlain {name : String} (plain : IsPlain name.toList) (nonempty : name ≠ "") :
    IsFileName name := by
  refine ⟨nonempty, ?_, ?_, plain.absent (by decide), plain.absent (by decide)⟩
  · rintro rfl
    exact plain.absent (c := '.') (by decide) (by decide)
  · rintro rfl
    exact plain.absent (c := '.') (by decide) (by decide)

theorem isFileName_append {name : String} (plain : IsPlain name.toList) {ending : String}
    (long : 2 < ending.toList.length) (noSeparator : '/' ∉ ending.toList)
    (noNull : '\x00' ∉ ending.toList) : IsFileName (name ++ ending) := by
  have length : (name ++ ending).toList.length = name.toList.length + ending.toList.length := by
    simp
  refine ⟨?_, ?_, ?_, ?_, ?_⟩
  · intro same
    have none : ("" : String).toList.length = 0 := rfl
    rw [same] at length
    omega
  · intro same
    have one : ("." : String).toList.length = 1 := rfl
    rw [same] at length
    omega
  · intro same
    have two : (".." : String).toList.length = 2 := rfl
    rw [same] at length
    omega
  · simpa [String.toList_append] using ⟨plain.absent (by decide), noSeparator⟩
  · simpa [String.toList_append] using ⟨plain.absent (by decide), noNull⟩

section
variable {package : String}

theorem packageParts_eq_nil : packageParts package = [] ↔ package = "" := by
  unfold packageParts
  split
  · simp_all
  · simp_all [split_ne_nil]

theorem join_packageParts (package : String) : join "." (packageParts package) = package := by
  unfold packageParts
  split
  · simp_all [join]
  · exact join_split rfl package

theorem noDot_of_mem_packageParts {part : String} (member : part ∈ packageParts package) :
    '.' ∉ part.toList := by
  unfold packageParts at member
  split at member
  · exact nomatch member
  · exact absent_of_mem_split member

end

namespace PluginClass

def artifactNames (c : PluginClass) : List String := packageParts c.package ++ [c.name ++ ".pyc"]

/-- The names on the way to the file that makes the outermost packages of a class one, as many of
them as said. -/
def packageNames (c : PluginClass) (depth : Nat) : List String :=
  (packageParts c.package).take depth ++ ["__init__.pyc"]

variable {c : PluginClass}

theorem qualifiedName_eq_join (c : PluginClass) :
    c.qualifiedName = join "." (packageParts c.package ++ [c.name]) := by
  unfold qualifiedName
  split
  · rename_i top
    simp [packageParts, top, join]
  · rename_i inside
    rw [join_concat "." (mt packageParts_eq_nil.mp inside), join_packageParts]

theorem artifactPath_eq_join (noDot : '.' ∉ c.name.toList) (t : Target) :
    t.artifactPath c.qualifiedName = join "/" (packageParts c.package ++ [c.name]) ++ t.suffix := by
  have noDots : ∀ part ∈ packageParts c.package ++ [c.name], '.' ∉ part.toList := by
    intro part member
    rcases List.mem_append.mp member with inside | last
    · exact noDot_of_mem_packageParts inside
    · rw [List.mem_singleton.mp last]
      exact noDot
  rw [Target.artifactPath, qualifiedName_eq_join, replaceChar_join rfl ['/'] noDots]

theorem qualifiedName_of_artifactNames {d : PluginClass} (same : c.artifactNames = d.artifactNames) :
    c.qualifiedName = d.qualifiedName := by
  obtain ⟨parts, last⟩ := List.append_inj' same rfl
  have name : c.name ++ ".pyc" = d.name ++ ".pyc" := (List.cons.inj last).1
  rw [qualifiedName_eq_join, qualifiedName_eq_join, parts, (String.append_left_inj _).mp name]

theorem name_of_artifactNames {d : PluginClass} {depth : Nat}
    (same : c.artifactNames = d.packageNames depth) : c.name = "__init__" := by
  obtain ⟨-, last⟩ := List.append_inj' same rfl
  have name : c.name ++ ".pyc" = "__init__" ++ ".pyc" := (List.cons.inj last).1
  exact (String.append_left_inj _).mp name

namespace IsSound

theorem isIdentifier_of_mem (sound : c.IsSound) {part : String}
    (member : part ∈ packageParts c.package) : isIdentifier part = true := by
  unfold packageParts at member
  split at member
  · exact nomatch member
  · rename_i inside
    exact sound.package.resolve_left inside part member

theorem isFileName_of_mem (sound : c.IsSound) {part : String}
    (member : part ∈ packageParts c.package) : IsFileName part := by
  obtain ⟨plain, nonempty⟩ := isPlain_of_isIdentifier (sound.isIdentifier_of_mem member)
  exact isFileName_of_isPlain plain nonempty

theorem artifactNames_valid (sound : c.IsSound) : ∀ name ∈ c.artifactNames, IsFileName name := by
  intro name member
  rcases List.mem_append.mp member with inside | last
  · exact sound.isFileName_of_mem inside
  · rw [List.mem_singleton.mp last]
    exact isFileName_append sound.name (by decide) (by decide) (by decide)

theorem packageNames_valid (sound : c.IsSound) (depth : Nat) :
    ∀ name ∈ c.packageNames depth, IsFileName name := by
  intro name member
  rcases List.mem_append.mp member with inside | last
  · exact sound.isFileName_of_mem (List.mem_of_mem_take inside)
  · rw [List.mem_singleton.mp last]
    decide

theorem artifactPath (sound : c.IsSound) :
    Target.bytecode.artifactPath c.qualifiedName = join "/" c.artifactNames := by
  rw [artifactPath_eq_join (sound.name.absent (by decide))]
  show join "/" (packageParts c.package ++ [c.name]) ++ ".pyc" = _
  by_cases top : packageParts c.package = []
  · simp [artifactNames, top, join]
  · rw [artifactNames, join_concat _ top, join_concat _ top, String.append_assoc]

end IsSound

end PluginClass

/-- A path that stays below the directory it is seen from. -/
structure IsConfined (path : String) : Prop where
  relative : startsWith path "/" = false
  nonempty : split '/' path ≠ []
  valid : ∀ name ∈ split '/' path, IsFileName name

theorem IsConfined.isNormalPart {path : String} (confined : IsConfined path) :
    ∀ part ∈ split '/' path, Path.IsNormalPart part := fun part member =>
  Path.isNormalPart_of_isFileName (confined.valid part member)

theorem isConfined_join {names : List String} (nonempty : names ≠ [])
    (valid : ∀ name ∈ names, IsFileName name) :
    IsConfined (join "/" names) ∧ split '/' (join "/" names) = names := by
  have cut : split '/' (join "/" names) = names :=
    split_join Path.slash_single nonempty fun name member => (valid name member).noSeparator
  refine ⟨⟨?_, by rwa [cut], by rwa [cut]⟩, cut⟩
  have normal : (⟨.here, names⟩ : Path).IsNormal := fun name member =>
    Path.isNormalPart_of_isFileName (valid name member)
  have spelled : (⟨.here, names⟩ : Path).text = join "/" names := by
    simp [Path.text, Anchor.text, nonempty]
  rw [← spelled, Path.startsWith_text normal]
  rfl

theorem artifactNames_split {c : PluginClass} (sound : c.IsSound) :
    split '/' (join "/" c.artifactNames) = c.artifactNames :=
  (isConfined_join (by simp [PluginClass.artifactNames]) sound.artifactNames_valid).2

theorem packageNames_split {c : PluginClass} (sound : c.IsSound) (depth : Nat) :
    split '/' (join "/" (c.packageNames depth)) = c.packageNames depth :=
  (isConfined_join (by simp [PluginClass.packageNames]) (sound.packageNames_valid depth)).2

theorem IsConfined.child {path : String} (confined : IsConfined path) (directory : Path) :
    directory.child path = ⟨directory.anchor, directory.parts ++ split '/' path⟩ := by
  have whole := Path.child_join directory confined.nonempty confined.valid
  rwa [join_split rfl] at whole

end PluginBuild
