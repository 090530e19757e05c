import PluginBuild.Proofs.Confinement
import PluginBuild.Proofs.Fillings

/-!
When the files of several scripts agree, whatever the order in which they are written. A class has a file
of its own if no other class has its name; the file of a package is the same from every script; and no
directory that one script needs is a file of another one, for names of compiled files have a dot and names
of packages have none.
-/

namespace PluginBuild

open PluginBuild.Files PluginBuild.Script PluginBuild.Text

/-- The names on the way to a compiled file: only the last one has a dot. -/
def IsCompiledWay (names : List String) : Prop :=
  ∃ parts name, names = parts ++ [name ++ ".pyc"] ∧ ∀ part ∈ parts, '.' ∉ part.toList

theorem IsCompiledWay.eq_of_above {names others : List String} (one : IsCompiledWay names)
    (two : IsCompiledWay others) (above : names <+: others) : names = others := by
  obtain ⟨parts, name, rfl, -⟩ := one
  obtain ⟨parts', name', rfl, dotless⟩ := two
  rcases List.prefix_concat_iff.mp above with same | inside
  · exact same
  · have member : name ++ ".pyc" ∈ parts' := inside.subset (by simp)
    refine absurd ?_ (dotless _ member)
    rw [String.toList_append, List.mem_append]
    exact .inr (by decide)

section
variable {b : Backend} {unit : SourceUnit} {c : PluginClass} {m : Module} {outputs : Outputs}
  {o : OutputFile}

theorem PluginClass.isCompiledWay_artifactNames (c : PluginClass) : IsCompiledWay c.artifactNames :=
  ⟨packageParts c.package, c.name, rfl, fun _ => noDot_of_mem_packageParts⟩

theorem PluginClass.isCompiledWay_packageNames (c : PluginClass) (depth : Nat) :
    IsCompiledWay (c.packageNames depth) :=
  ⟨(packageParts c.package).take depth, "__init__", rfl, fun _ member =>
    noDot_of_mem_packageParts (List.mem_of_mem_take member)⟩

theorem IsGenerated.isCompiledWay (generated : IsGenerated b unit c m outputs) (sound : c.IsSound)
    (member : o ∈ outputs) : IsCompiledWay (split '/' o.path) := by
  rcases generated.path_cases sound member with path | ⟨depth, -, -, path⟩
  · rw [path, artifactNames_split sound]
    exact c.isCompiledWay_artifactNames
  · rw [path, packageNames_split sound]
    exact c.isCompiledWay_packageNames depth

theorem IsGenerated.names_cases (generated : IsGenerated b unit c m outputs) (sound : c.IsSound)
    (member : o ∈ outputs) : split '/' o.path = c.artifactNames ∨
      ∃ directory depth, o = packageFile b Target.bytecode directory ∧
        split '/' o.path = c.packageNames depth := by
  rcases (generated.members o).mp member with rfl | ⟨⟨directory, listed, rfl⟩, -⟩
  · refine .inl ?_
    rw [classFile, sound.artifactPath, artifactNames_split sound]
  · obtain ⟨depth, positive, most, rfl⟩ := mem_packageDirectories.mp listed
    refine .inr ⟨_, depth, rfl, ?_⟩
    rw [PluginClass.packageFile_path b positive most, packageNames_split sound]

end

/-- Scripts that came to classes without faults and to their files. -/
def AreGenerated (b : Backend) (mades : List (PluginClass × Outputs)) : Prop :=
  ∀ made ∈ mades, made.1.IsSound ∧ ∃ unit m, IsGenerated b unit made.1 m made.2

section
variable {b : Backend} {mades : List (PluginClass × Outputs)} {o o' : OutputFile}
  (generated : AreGenerated b mades) (distinct : (mades.map (·.1.qualifiedName)).Nodup)
  (plain : ∀ made ∈ mades, made.1.name ≠ "__init__")
include generated

theorem AreGenerated.isCompiledWay (member : o ∈ allOutputs mades) :
    IsCompiledWay (split '/' o.path) := by
  obtain ⟨made, inside, here⟩ := List.mem_flatMap.mp member
  obtain ⟨sound, unit, m, files⟩ := generated made inside
  exact files.isCompiledWay sound here

include distinct plain

theorem AreGenerated.eq_of_path (member : o ∈ allOutputs mades) (member' : o' ∈ allOutputs mades)
    (same : o.path = o'.path) : o = o' := by
  -- by what the two files are: the file of a class, or that of a package
  obtain ⟨made, inside, here⟩ := List.mem_flatMap.mp member
  obtain ⟨made', inside', here'⟩ := List.mem_flatMap.mp member'
  obtain ⟨sound, unit, m, files⟩ := generated made inside
  obtain ⟨sound', unit', m', files'⟩ := generated made' inside'
  have names := congrArg (split '/') same
  rcases files.names_cases sound here with own | ⟨directory, depth, rfl, own⟩
  · rcases files'.names_cases sound' here' with own' | ⟨directory', depth', rfl, own'⟩
    · rw [own, own'] at names
      have one : made = made' := List.inj_on_of_nodup_map distinct inside inside'
        (PluginClass.qualifiedName_of_artifactNames names)
      subst one
      exact List.inj_on_of_nodup_map files.distinct here here' same
    · rw [own, own'] at names
      exact absurd (PluginClass.name_of_artifactNames names) (plain made inside)
  · rcases files'.names_cases sound' here' with own' | ⟨directory', depth', rfl, own'⟩
    · rw [own, own'] at names
      exact absurd (PluginClass.name_of_artifactNames names.symm) (plain made' inside')
    · rw [packageFile_injective b Target.bytecode same]

/-- The files of scripts with distinct classes, none of which makes a package one, agree. -/
theorem AreGenerated.agree (root : Place) : Outputs.Agree root (allOutputs mades) := by
  -- a place that one file stands at is neither another file's nor above it
  have alone : ∀ o ∈ allOutputs mades, ∀ o' ∈ allOutputs mades,
      root ++ split '/' o.path <+: root ++ split '/' o'.path → o = o' := by
    intro o member o' member' above
    have names := (generated.isCompiledWay member).eq_of_above (generated.isCompiledWay member')
      ((List.prefix_append_right_inj root).mp above)
    have joined : ∀ path, join "/" (split '/' path) = path := join_split rfl
    have path : o.path = o'.path := by rw [← joined o.path, names, joined]
    exact generated.eq_of_path distinct plain member member' path
  intro o member o' member' place x y shown shown'
  have below := (OutputFile.prefix_of_entryAt shown).2
  have below' := (OutputFile.prefix_of_entryAt shown').2
  by_cases here : place = root ++ split '/' o.path
  · rw [here] at below'
    obtain rfl := alone o member o' member' below'
    exact Option.some.inj (shown.symm.trans shown')
  · by_cases here' : place = root ++ split '/' o'.path
    · rw [here'] at below
      obtain rfl := alone o' member' o member below
      exact absurd here' here
    · unfold OutputFile.entryAt at shown shown'
      rw [if_neg here] at shown
      rw [if_neg here'] at shown'
      split at shown
      · split at shown'
        · cases shown
          cases shown'
          rfl
        · exact nomatch shown'
      · exact nomatch shown

end

end PluginBuild
