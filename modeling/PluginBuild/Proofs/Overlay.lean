import PluginBuild.Proofs.Evolution
import PluginBuild.Proofs.Files.Fitting
import PluginBuild.Proofs.Writing

/-!
What generated files make of a tree, place by place. They lie over what was there: a place shows what
the last file makes of it that makes anything of it, and otherwise what it showed before.
-/

namespace PluginBuild

open PluginBuild.Files PluginBuild.Text

/-- What a generated file below a place makes of a place: its content where it stands, and a directory
on the way there. -/
def OutputFile.entryAt (root : Place) (o : OutputFile) (place : Place) : Option Entry :=
  if place = root ++ split '/' o.path then some (.file o.content)
  else if root <+: place ∧ place <+: root ++ split '/' o.path then some .directory
  else none

/-- What generated files make of a place, the last one first. -/
def Outputs.entryAt (root : Place) : Outputs → Place → Option Entry
  | [], _ => none
  | o :: rest, place => (Outputs.entryAt root rest place).or (o.entryAt root place)

section
variable {root : Place} {o : OutputFile}

theorem OutputFile.prefix_of_entryAt {place : Place} {x : Entry}
    (made : o.entryAt root place = some x) : root <+: place ∧ place <+: root ++ split '/' o.path := by
  unfold OutputFile.entryAt at made
  split at made
  · rename_i here
    rw [here]
    exact ⟨List.prefix_append _ _, List.prefix_rfl⟩
  · split at made
    · rename_i between
      exact between
    · exact nomatch made

namespace Outputs

theorem entryAt_append (root : Place) (front back : Outputs) (place : Place) :
    Outputs.entryAt root (front ++ back) place =
      (Outputs.entryAt root back place).or (Outputs.entryAt root front place) := by
  induction front with
  | nil => simp [Outputs.entryAt]
  | cons o rest ih => rw [List.cons_append, Outputs.entryAt, Outputs.entryAt, ih, Option.or_assoc]

theorem mem_of_entryAt {outputs : Outputs} {place : Place} {x : Entry}
    (made : Outputs.entryAt root outputs place = some x) :
    ∃ o ∈ outputs, o.entryAt root place = some x := by
  induction outputs with
  | nil => exact nomatch made
  | cons o rest ih =>
    rw [Outputs.entryAt, Option.or_eq_some_iff] at made
    rcases made with later | ⟨-, here⟩
    · obtain ⟨o', member, made⟩ := ih later
      exact ⟨o', List.mem_cons_of_mem o member, made⟩
    · exact ⟨o, List.mem_cons_self, here⟩

theorem entryAt_isSome {outputs : Outputs} (member : o ∈ outputs) {place : Place} {x : Entry}
    (made : o.entryAt root place = some x) : ∃ y, Outputs.entryAt root outputs place = some y := by
  induction outputs with
  | nil => exact nomatch member
  | cons first rest ih =>
    rw [Outputs.entryAt]
    cases later : Outputs.entryAt root rest place with
    | some y => exact ⟨y, rfl⟩
    | none =>
      rcases List.mem_cons.mp member with rfl | inside
      · exact ⟨x, made⟩
      · obtain ⟨y, known⟩ := ih inside
        exact nomatch later.symm.trans known

theorem entryAt_outside {outputs : Outputs} {place : Place} (outside : ¬ root <+: place) :
    Outputs.entryAt root outputs place = none := by
  cases made : Outputs.entryAt root outputs place with
  | none => rfl
  | some x =>
    obtain ⟨o, -, here⟩ := mem_of_entryAt made
    exact absurd (OutputFile.prefix_of_entryAt here).1 outside

/-- Files that make the same of every place that two of them make something of. -/
def Agree (root : Place) (outputs : Outputs) : Prop :=
  ∀ o ∈ outputs, ∀ o' ∈ outputs, ∀ place x y,
    o.entryAt root place = some x → o'.entryAt root place = some y → x = y

theorem entryAt_eq_some_iff {outputs : Outputs} (agree : Agree root outputs) {place : Place} {x : Entry} :
    Outputs.entryAt root outputs place = some x ↔ ∃ o ∈ outputs, o.entryAt root place = some x := by
  constructor
  · exact mem_of_entryAt
  · rintro ⟨o, member, made⟩
    obtain ⟨y, known⟩ := entryAt_isSome member made
    obtain ⟨o', member', made'⟩ := mem_of_entryAt known
    rw [known, agree o member o' member' place x y made made']

theorem entryAt_perm {outputs others : Outputs} (agree : Agree root outputs)
    (perm : outputs.Perm others) (place : Place) :
    Outputs.entryAt root outputs place = Outputs.entryAt root others place := by
  have agree' : Agree root others := fun o one o' two =>
    agree o (perm.mem_iff.mpr one) o' (perm.mem_iff.mpr two)
  refine Option.ext fun x => ?_
  rw [entryAt_eq_some_iff agree, entryAt_eq_some_iff agree']
  constructor
  · rintro ⟨o, member, made⟩
    exact ⟨o, perm.mem_iff.mp member, made⟩
  · rintro ⟨o, member, made⟩
    exact ⟨o, perm.mem_iff.mpr member, made⟩

end Outputs

end

/-- A sound tree without links in which a path leads to a directory at a certain place. -/
structure Files.FileTree.Offers (t : FileTree) (directory : Path) (root : Place) : Prop where
  sound : t.IsSound
  unlinked : t.IsUnlinked
  leads : t.locate true directory.text = .ok (.found root .directory)

/-- A tree in which the path of each of some generated files leads to a file. -/
def Files.FileTree.HasRoomFor (t : FileTree) (directory : Path) (outputs : Outputs) : Prop :=
  ∀ o ∈ outputs, ∃ place content,
    t.locate true (directory.child o.path).text = .ok (.found place (.file content))

section
variable {directory : Path} {root : Place} {t t' : FileTree} {o : OutputFile} {outputs : Outputs}

theorem Files.FileTree.HasRoomFor.grow (room : t.HasRoomFor directory outputs) (grows : t.Grows t') :
    t'.HasRoomFor directory outputs := by
  intro o member
  obtain ⟨place, content, leads⟩ := room o member
  obtain ⟨now, leads', -⟩ := FileTree.locate_grow_file leads grows
  exact ⟨place, now, leads'⟩

theorem delivery_of_putOutput (done : t.putOutput directory o = .ok () t') :
    Delivery directory t [o] [o] t' := by
  unfold FileTree.putOutput at done
  have makes := (t.ensurePath_spec (directory.child o.path).parent).1
  cases made : t.ensurePath (directory.child o.path).parent with
  | error e t₁ =>
    rw [made] at done
    exact nomatch done
  | ok _ t₁ =>
    rw [made] at done makes
    exact .wrote makes done (.all _)

variable (normal : directory.IsNormal)
include normal

theorem putOutput_get? (offers : t.Offers directory root) (confined : IsConfined o.path)
    (done : t.putOutput directory o = .ok () t') :
    t'.Offers directory root ∧ t.Grows t' ∧ t'.HasRoomFor directory [o] ∧
      ∀ place, t'.get? place = (o.entryAt root place).or (t.get? place) := by
  have delivery := delivery_of_putOutput done
  obtain ⟨sound, unlinked⟩ := delivery.isSound offers.sound offers.unlinked
  have leads := FileTree.locate_grow_directory offers.leads delivery.grows
  have place_eq : ∀ place x, t'.locate true (directory.child o.path).text = .ok (.found place x) →
      place = root ++ split '/' o.path := fun place x found =>
    confined.place normal leads (fun p target _ _ => unlinked.get?_ne p target) found
  obtain ⟨place, found, there⟩ := delivery.content_of_written (by simp [Outputs.IsDistinct])
    (by simp) List.mem_cons_self
  have here := place_eq place _ found
  rw [here] at there
  refine ⟨⟨sound, unlinked, leads⟩, delivery.grows, ?_, fun place => ?_⟩
  · intro other member
    rw [List.mem_singleton.mp member]
    exact ⟨_, _, found⟩
  -- A place is that of the file, one above it below the directory, or neither.
  unfold OutputFile.entryAt
  by_cases own : place = root ++ split '/' o.path
  · rw [if_pos own, own, there]
    rfl
  rw [if_neg own]
  by_cases between : root <+: place ∧ place <+: root ++ split '/' o.path
  · rw [if_pos between]
    obtain ⟨more, whole⟩ := between.2
    have behind : more ≠ [] := by
      rintro rfl
      rw [List.append_nil] at whole
      exact own whole
    rw [← whole] at there
    exact sound.above behind there
  rw [if_neg between, Option.none_or]
  rcases delivery.frame place with same | ⟨o', member, content, -, leads'⟩ |
    ⟨free, made, o', member, q, above, leads'⟩
  · exact same
  · rw [List.mem_singleton.mp member] at leads'
    exact absurd (place_eq place _ leads') own
  · rw [List.mem_singleton.mp member] at above
    obtain ⟨back, -, down, below⟩ := place_of_made unlinked normal offers.leads offers.sound
      delivery.grows confined above free leads'
    rw [below] at between
    exact absurd ⟨List.prefix_append _ _, (List.prefix_append_right_inj _).mpr down⟩ between

/-- Where a tree that is to come has room for a generated file, the file can be written now. -/
theorem putOutput_within {last : FileTree} (offers : t.Offers directory root)
    (confined : IsConfined o.path) (grows : t.Grows last) (sound : last.IsSound)
    (unlinked : last.IsUnlinked) {place : Place} {content : Bytes}
    (leads : last.locate true (directory.child o.path).text = .ok (.found place (.file content))) :
    ∃ t', t.putOutput directory o = .ok () t' ∧ t'.Grows last := by
  have whole : (⟨directory.anchor, directory.parts ++ split '/' o.path⟩ : Path).IsNormal :=
    Path.isNormal_append normal confined.isNormalPart
  have child := confined.child directory
  obtain ⟨names, name, cut⟩ : ∃ names name, split '/' o.path = names ++ [name] :=
    ⟨_, _, (List.dropLast_concat_getLast confined.nonempty).symm⟩
  rw [cut, ← List.append_assoc] at child whole
  have parent : (directory.child o.path).parent = ⟨directory.anchor, directory.parts ++ names⟩ := by
    rw [child, Path.parent]
    dsimp only
    rw [List.dropLast_concat]
  rw [child] at leads
  obtain ⟨above, -, leads', -⟩ := FileTree.locate_split whole (by simp) leads
  have upper : (⟨directory.anchor, directory.parts ++ names⟩ : Path).IsNormal := fun part member =>
    whole part (List.mem_append_left _ member)
  obtain ⟨t₁, made, grows₁⟩ := FileTree.ensurePath_within sound unlinked upper offers.sound
    offers.unlinked grows leads'
  have spec := t.ensurePath_spec ⟨directory.anchor, directory.parts ++ names⟩
  have unlinked₁ : t₁.IsUnlinked := by
    have makes := spec.1
    rw [made] at makes
    exact (makes.isSound offers.sound offers.unlinked).2
  obtain ⟨q, here⟩ := spec.2 t₁ made
  obtain ⟨t', wrote, grows'⟩ := FileTree.write_within sound unlinked whole unlinked₁ grows₁ leads here
    o.content
  refine ⟨t', ?_, grows'⟩
  rw [FileTree.putOutput, parent, made]
  dsimp only
  rw [child, wrote]

theorem putOutputs_get? (offers : t.Offers directory root)
    (confined : ∀ o ∈ outputs, IsConfined o.path)
    (done : t.putOutputs directory outputs = .ok () t') :
    t'.Offers directory root ∧ t.Grows t' ∧ t'.HasRoomFor directory outputs ∧
      ∀ place, t'.get? place = (Outputs.entryAt root outputs place).or (t.get? place) := by
  induction outputs generalizing t with
  | nil =>
    cases done
    exact ⟨offers, .refl _, List.forall_mem_nil _, fun _ => rfl⟩
  | cons o rest ih =>
    rw [FileTree.putOutputs] at done
    cases put : t.putOutput directory o with
    | error e t₁ =>
      rw [put] at done
      cases done
    | ok _ t₁ =>
      rw [put] at done
      obtain ⟨offers₁, grows₁, room₁, shows₁⟩ :=
        putOutput_get? normal offers (confined o List.mem_cons_self) put
      obtain ⟨offers', grows', room', shows'⟩ :=
        ih offers₁ (fun o member => confined o (List.mem_cons_of_mem _ member)) done
      refine ⟨offers', grows₁.trans grows', ?_, fun place => ?_⟩
      · intro other member
        rcases List.mem_cons.mp member with rfl | later
        · exact room₁.grow grows' other List.mem_cons_self
        · exact room' other later
      · rw [shows', shows₁, Outputs.entryAt, Option.or_assoc]

theorem putOutputs_within {last : FileTree} (offers : t.Offers directory root)
    (confined : ∀ o ∈ outputs, IsConfined o.path) (grows : t.Grows last) (sound : last.IsSound)
    (unlinked : last.IsUnlinked) (room : last.HasRoomFor directory outputs) :
    ∃ t', t.putOutputs directory outputs = .ok () t' ∧ t'.Grows last := by
  induction outputs generalizing t with
  | nil => exact ⟨t, rfl, grows⟩
  | cons o rest ih =>
    have own := confined o List.mem_cons_self
    obtain ⟨place, content, leads⟩ := room o List.mem_cons_self
    obtain ⟨t₁, put, grows₁⟩ := putOutput_within normal offers own grows sound unlinked leads
    obtain ⟨offers₁, -⟩ := putOutput_get? normal offers own put
    obtain ⟨t', more, grows'⟩ := ih offers₁ (fun o member => confined o (List.mem_cons_of_mem _ member))
      grows₁ fun o member => room o (List.mem_cons_of_mem _ member)
    refine ⟨t', ?_, grows'⟩
    rw [FileTree.putOutputs, put]
    exact more

end

end PluginBuild
