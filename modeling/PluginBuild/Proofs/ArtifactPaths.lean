import PluginBuild.Proofs.ClassNames
import PluginBuild.Proofs.Generation

/-!
Qualified names of classes against the paths of their files. The two say the same: each of them tells the
package and the name of its class, for names without the characters that cut names and paths. The file that
makes a directory a package is the file of a class only for a class that is named like it.
-/

namespace PluginBuild

open PluginBuild.Text

namespace PluginClass

/-- A class at the top or in a package with a valid name, whose own name holds no character that cuts
names or paths. -/
structure IsAddressable (c : PluginClass) : Prop where
  package : c.package = "" ∨ isPackageName c.package = true
  nonempty : c.name ≠ ""
  noDot : '.' ∉ c.name.toList
  noSlash : '/' ∉ c.name.toList

instance (c : PluginClass) : Decidable c.IsAddressable :=
  decidable_of_iff ((c.package = "" ∨ isPackageName c.package = true) ∧ c.name ≠ "" ∧
    '.' ∉ c.name.toList ∧ '/' ∉ c.name.toList)
    ⟨fun ⟨a, b, c, d⟩ => ⟨a, b, c, d⟩, fun ⟨a, b, c, d⟩ => ⟨a, b, c, d⟩⟩

def nameParts (c : PluginClass) : List String := packageParts c.package ++ [c.name]

variable {c d : PluginClass}

theorem nameParts_ne_nil (c : PluginClass) : c.nameParts ≠ [] := by simp [nameParts]

theorem nameParts_inj : c.nameParts = d.nameParts ↔ c.package = d.package ∧ c.name = d.name := by
  constructor
  · intro same
    obtain ⟨parts, last⟩ := List.append_inj' same rfl
    have package : c.package = d.package := by
      rw [← join_packageParts c.package, parts, join_packageParts]
    exact ⟨package, (List.cons.inj last).1⟩
  · rintro ⟨package, name⟩
    rw [nameParts, nameParts, package, name]

namespace IsAddressable

theorem noDot_of_mem (named : c.IsAddressable) {part : String} (member : part ∈ c.nameParts) :
    '.' ∉ part.toList := by
  rcases List.mem_append.mp member with inside | last
  · exact noDot_of_mem_packageParts inside
  · rw [List.mem_singleton.mp last]
    exact named.noDot

theorem noSlash_of_mem (named : c.IsAddressable) {part : String} (member : part ∈ c.nameParts) :
    '/' ∉ part.toList := by
  rcases List.mem_append.mp member with inside | last
  · unfold packageParts at inside
    split at inside
    · exact nomatch inside
    · rename_i some
      have identifiers := List.all_eq_true.mp (named.package.resolve_left some)
      exact (isPlain_of_isIdentifier (identifiers part inside)).1.absent (by decide)
  · rw [List.mem_singleton.mp last]
    exact named.noSlash

theorem qualifiedName_inj (one : c.IsAddressable) (other : d.IsAddressable) :
    c.qualifiedName = d.qualifiedName ↔ c.package = d.package ∧ c.name = d.name := by
  rw [← nameParts_inj, qualifiedName_eq_join, qualifiedName_eq_join]
  constructor
  · intro same
    exact join_injective rfl (nameParts_ne_nil c) (nameParts_ne_nil d)
      (fun _ member => one.noDot_of_mem member) (fun _ member => other.noDot_of_mem member) same
  · intro same
    exact congrArg (join ".") same

theorem artifactPath_inj (one : c.IsAddressable) (other : d.IsAddressable) (t : Target) :
    t.artifactPath c.qualifiedName = t.artifactPath d.qualifiedName ↔
      c.package = d.package ∧ c.name = d.name := by
  rw [← nameParts_inj, artifactPath_eq_join one.noDot, artifactPath_eq_join other.noDot,
    String.append_left_inj]
  constructor
  · intro same
    exact join_injective rfl (nameParts_ne_nil c) (nameParts_ne_nil d)
      (fun _ member => one.noSlash_of_mem member) (fun _ member => other.noSlash_of_mem member) same
  · intro same
    exact congrArg (join "/") same

end IsAddressable

theorem nameOf_separates (path : Path) :
    nameOf path ≠ "" ∧ '.' ∉ (nameOf path).toList ∧ '/' ∉ (nameOf path).toList := by
  have plain := isPlain_nameOf path
  obtain ⟨first, rest, chars, -⟩ := (isWordText_nameOf path).1
  constructor
  · intro empty
    simp [empty] at chars
  · exact ⟨plain.absent (by decide), plain.absent (by decide)⟩

end PluginClass

theorem PluginClass.artifactPath_in_package {c : PluginClass} (noDot : '.' ∉ c.name.toList)
    (inside : c.package ≠ "") (t : Target) : t.artifactPath c.qualifiedName =
      replaceChar '.' ['/'] c.package ++ "/" ++ c.name ++ t.suffix := by
  have between : replaceChar '.' ['/'] "." = "/" := rfl
  rw [Target.artifactPath, PluginClass.qualifiedName, if_neg inside, replaceChar_append,
    replaceChar_append, between, replaceChar_of_absent noDot]

section
variable (b : Backend) (t : Target) {directory : String}

/-- A directory is made a package by the file of a class only if that class is named like the file and is
in the package itself. -/
theorem packageFile_path_eq_iff {c : PluginClass} (named : c.IsAddressable) :
    (packageFile b t directory).path = t.artifactPath c.qualifiedName ↔
      c.name = "__init__" ∧ c.package ≠ "" ∧ replaceChar '.' ['/'] c.package = directory := by
  have spelled : (packageFile b t directory).path = directory ++ "/" ++ "__init__" ++ t.suffix := by
    simp only [packageFile, String.append_assoc]
    rfl
  rw [spelled]
  by_cases top : c.package = ""
  · -- At the top the path is a name, and a name holds no slash.
    rw [Target.artifactPath, PluginClass.qualifiedName, if_pos top, replaceChar_of_absent named.noDot,
      String.append_left_inj]
    constructor
    · intro same
      have slash : '/' ∈ (directory ++ "/" ++ "__init__").toList := by simp
      exact absurd (same ▸ slash) named.noSlash
    · rintro ⟨_, inside, _⟩
      exact absurd top inside
  · rw [PluginClass.artifactPath_in_package named.noDot top, String.append_left_inj]
    constructor
    · intro same
      obtain ⟨whole, name⟩ := last_unique Path.slash_single (by decide) named.noSlash same
      exact ⟨name.symm, top, whole.symm⟩
    · rintro ⟨name, _, whole⟩
      rw [name, whole]

theorem Outputs.eq_or_mem_of_mem_add {o added : OutputFile} {outputs : Outputs}
    (member : o ∈ outputs.add added) : o = added ∨ o ∈ outputs := by
  induction outputs with
  | nil => exact .inl (List.mem_singleton.mp member)
  | cons first rest ih =>
    unfold Outputs.add at member
    split at member
    · rcases List.mem_cons.mp member with here | later
      · exact .inl here
      · exact .inr (List.mem_cons_of_mem first later)
    · rcases List.mem_cons.mp member with here | later
      · exact .inr (here ▸ List.mem_cons_self)
      · exact (ih later).imp_right (List.mem_cons_of_mem first)

theorem packageFile_of_mem_addPackages {directories : List String} {outputs : Outputs} {o : OutputFile}
    (member : o ∈ addPackages b t directories outputs) (fresh : o ∉ outputs) :
    ∃ directory ∈ directories, o = packageFile b t directory := by
  induction directories generalizing outputs with
  | nil => exact absurd member fresh
  | cons directory rest ih =>
    rw [addPackages, List.foldl_cons, ← addPackages] at member
    by_cases here : o = packageFile b t directory
    · exact ⟨directory, List.mem_cons_self, here⟩
    · have still : o ∉ (if (outputs.get? (packageFile b t directory).path).isSome then outputs
          else outputs.add (packageFile b t directory)) := by
        split
        · exact fresh
        · intro inside
          exact (Outputs.eq_or_mem_of_mem_add inside).elim here fresh
      obtain ⟨other, listed, same⟩ := ih member still
      exact ⟨other, List.mem_cons_of_mem directory listed, same⟩

end

/-- Qualified names and paths of files correspond one to one: two classes have the same path exactly if
they have the same qualified name, and that is so exactly if they have the same package and the same name.
A file that is added for the packages of a class has the path of a class only if this is named like the
file, and then it is the class of that name in the package itself. The names that files give to classes
are among those for which this holds. -/
theorem names_and_paths_correspond (t : Target) :
    (∀ c d : PluginClass, c.IsAddressable → d.IsAddressable →
      (t.artifactPath c.qualifiedName = t.artifactPath d.qualifiedName ↔
        c.qualifiedName = d.qualifiedName) ∧
      (c.qualifiedName = d.qualifiedName ↔ c.package = d.package ∧ c.name = d.name)) ∧
    (∀ (b : Backend) (package : String) (outputs : Outputs) (c : PluginClass), c.IsAddressable →
      ∀ o ∈ addPackages b t (packageDirectories package) outputs, o ∉ outputs →
        ∃ directory ∈ packageDirectories package, o = packageFile b t directory ∧
          (o.path = t.artifactPath c.qualifiedName ↔
            c.name = "__init__" ∧ c.package ≠ "" ∧ replaceChar '.' ['/'] c.package = directory)) ∧
    ∀ path : Path, PluginClass.nameOf path ≠ "" ∧ '.' ∉ (PluginClass.nameOf path).toList ∧
      '/' ∉ (PluginClass.nameOf path).toList := by
  refine ⟨?_, ?_, PluginClass.nameOf_separates⟩
  · intro c d one other
    rw [one.artifactPath_inj other, one.qualifiedName_inj other]
    exact ⟨Iff.rfl, Iff.rfl⟩
  · intro b package outputs c named o member fresh
    obtain ⟨directory, listed, rfl⟩ := packageFile_of_mem_addPackages b t member fresh
    exact ⟨directory, listed, rfl, packageFile_path_eq_iff b t named⟩

/-- Classes in two packages of which one lies in the other: those of one name have two paths, and the file
that is added for the outer package has the path of the class that makes it one, and not of another class. -/
theorem nested_packages_correspond :
    let outer : PluginClass := ⟨"Tool", "a"⟩
    let inner : PluginClass := ⟨"Tool", "a.b"⟩
    let maker : PluginClass := ⟨"__init__", "a"⟩
    let t := Target.bytecode
    let b : Backend := fun _ _ => []
    let made := packageFile b t "a"
    outer.IsAddressable ∧ inner.IsAddressable ∧ maker.IsAddressable ∧
      made ∈ addPackages b t (packageDirectories "a.b") [] ∧
      t.artifactPath outer.qualifiedName ≠ t.artifactPath inner.qualifiedName ∧
      made.path = t.artifactPath maker.qualifiedName ∧
      made.path ≠ t.artifactPath outer.qualifiedName := by
  intro outer inner maker t b made
  have one : outer.IsAddressable := by decide +kernel
  have other : inner.IsAddressable := by decide +kernel
  have third : maker.IsAddressable := by decide +kernel
  have member : made ∈ addPackages b t (packageDirectories "a.b") [] := by decide +kernel
  obtain ⟨distinct, added, -⟩ := names_and_paths_correspond t
  obtain ⟨paths, names⟩ := distinct outer inner one other
  obtain ⟨directory, _, same, ofMaker⟩ := added b "a.b" [] maker third made member List.not_mem_nil
  obtain ⟨_, _, _, ofOuter⟩ := added b "a.b" [] outer one made member List.not_mem_nil
  obtain rfl : "a" = directory := packageFile_injective b t (congrArg OutputFile.path same)
  refine ⟨one, other, third, member, ?_, ?_, ?_⟩
  · intro equal
    exact absurd (names.mp (paths.mp equal)).1 (by decide)
  · exact ofMaker.mpr ⟨rfl, by decide, by decide⟩
  · intro equal
    exact absurd (ofOuter.mp equal).1 (by decide)

end PluginBuild
