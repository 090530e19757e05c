import Mathlib.Data.List.Perm.Basic
import PluginBuild.Proofs.Agreement
import PluginBuild.Proofs.ScriptLists

/-!
Batches over lists of scripts. What a script comes to does not depend on what was written below the output
directory before it, and files of distinct classes agree. So in any order the scripts come to the same
files, which have room where they had room in one order, and the last tree is the same.
-/

namespace PluginBuild

open PluginBuild.Files PluginBuild.Script PluginBuild.Text

/-- A path that ends outside of a place, and for which the directories below that place are there that it
goes through. -/
structure EndsOutside (t : FileTree) (root : Place) (p : Path) : Prop where
  normal : p.IsNormal
  outside : ¬ root <+: t.placeOf p
  way : t.HasWay root p

theorem EndsOutside.grow {t t' : FileTree} {root : Place} {p : Path} (ends : EndsOutside t root p)
    (grows : t.Grows t') : EndsOutside t' root p :=
  ⟨ends.normal, (FileTree.placeOf_of_current grows.current p).symm ▸ ends.outside, ends.way.grow grows⟩

theorem EndsOutside.absolute {t : FileTree} {root : Place} {p : Path} (ends : EndsOutside t root p)
    (sound : t.IsSound) : EndsOutside t root (t.absolute p) :=
  ⟨FileTree.isNormal_absolute sound ends.normal, (FileTree.placeOf_absolute sound p).symm ▸ ends.outside,
    ends.way.absolute sound⟩

/-- A tree that has grown from another one below the place of the output directory only. -/
structure IsFilled (output : Path) (root : Place) (start t : FileTree) : Prop where
  before : start.Offers output root
  offers : t.Offers output root
  grows : start.Grows t
  outside : ∀ q, ¬ root <+: q → t.get? q = start.get? q

namespace IsFilled

variable {output : Path} {root : Place} {start t t' : FileTree}

theorem refl (offers : start.Offers output root) : IsFilled output root start start :=
  ⟨offers, offers, .refl start, fun _ _ => rfl⟩

theorem alike (filled : IsFilled output root start t) : IsAlikeOutside root start t :=
  ⟨filled.grows.current, filled.before.unlinked, filled.offers.unlinked,
    ⟨FileTree.locate_entry filled.before.sound filled.before.leads,
      FileTree.locate_entry filled.offers.sound filled.offers.leads⟩, filled.outside⟩

theorem put (filled : IsFilled output root start t) (normal : output.IsNormal) {outputs : Outputs}
    (confined : ∀ o ∈ outputs, IsConfined o.path) (done : t.putOutputs output outputs = .ok () t') :
    IsFilled output root start t' := by
  obtain ⟨offers, grows, -, shows⟩ := putOutputs_get? normal filled.offers confined done
  refine ⟨filled.before, offers, filled.grows.trans grows, fun q apart => ?_⟩
  rw [shows, Outputs.entryAt_outside apart, Option.none_or]
  exact filled.outside q apart

variable {b : Backend} {classpath : List Path} {template : Template} {source : Path}
  {made : PluginClass × Outputs}

theorem scriptOutcome_iff (filled : IsFilled output root start t) (plain : '/' ∉ template.module.toList)
    (entries : ∀ entry ∈ classpath, EndsOutside start root entry)
    (script : EndsOutside start root source) :
    scriptOutcome b classpath template t source = .ok made ↔
      scriptOutcome b classpath template start source = .ok made := by
  have alike := filled.alike
  have seen := script.absolute filled.before.sound
  have same := FileTree.absolute_of_current filled.grows.current source
  have same' := FileTree.absolute?_of_current filled.before.sound filled.offers.sound filled.grows.current source
  have reads : t.status? (start.absolute source).text = start.status? (start.absolute source).text :=
    alike.status? seen.normal seen.way (seen.grow filled.grows).way seen.outside
  constructor
  · refine scriptOutcome_stays (fun entry member => ?_) alike.unlinked' alike.unlinked
      filled.grows.platform.symm same'.symm (fun bytes => ?_) plain
    · have ends := entries entry member
      have ends' := ends.grow filled.grows
      exact alike.symm.entryStays ends.normal ends'.way ends.way ends'.outside
    · rw [same, FileTree.read_eq_ok_iff, FileTree.read_eq_ok_iff, reads]
      exact id
  · refine scriptOutcome_stays (fun entry member => ?_) alike.unlinked alike.unlinked'
      filled.grows.platform same' (fun bytes => ?_) plain
    · have ends := entries entry member
      exact alike.entryStays ends.normal ends.way (ends.grow filled.grows).way ends.outside
    · rw [FileTree.read_eq_ok_iff, FileTree.read_eq_ok_iff, reads]
      exact id

end IsFilled

section
variable {b : Backend} {classpath : List Path} {template : Template} {output : Path} {root : Place}
  {start t ended : FileTree} {sources others : List Path} {mades : List (PluginClass × Outputs)}

/-- Sources whose classes have names of their own, none of which is the name of a package's file. -/
structure HasOwnNames (template : Template) (files : FileTree) (sources : List Path) : Prop where
  distinct : ((sources.filterMap (classAt template files)).map (·.qualifiedName)).Nodup
  named : ∀ c ∈ sources.filterMap (classAt template files), c.name ≠ "__init__"

theorem HasOwnNames.perm (own : HasOwnNames template start sources) (perm : sources.Perm others) :
    HasOwnNames template start others := by
  have members := perm.filterMap (classAt template start)
  exact ⟨(members.map _).nodup_iff.mp own.distinct, fun c member =>
    own.named c (members.mem_iff.mpr member)⟩

/-- What scripts come to in one tree, each for itself. -/
def Outcomes (b : Backend) (classpath : List Path) (template : Template) (start : FileTree) :
    List Path → List (PluginClass × Outputs) → Prop :=
  List.Forall₂ fun source made => scriptOutcome b classpath template start source = .ok made

theorem Outcomes.areGenerated (outcomes : Outcomes b classpath template start sources mades) :
    AreGenerated b mades := by
  induction outcomes with
  | nil => exact fun _ member => nomatch member
  | cons outcome _ ih =>
    intro made member
    rcases List.mem_cons.mp member with rfl | later
    · exact (generated_of_outcome outcome).2
    · exact ih made later

theorem Outcomes.classes (outcomes : Outcomes b classpath template start sources mades) :
    sources.filterMap (classAt template start) = mades.map (·.1) := by
  induction outcomes with
  | nil => rfl
  | cons outcome _ ih =>
    rw [List.filterMap_cons_some (generated_of_outcome outcome).1, ih]
    rfl

theorem Outcomes.perm (outcomes : Outcomes b classpath template start sources mades)
    (perm : sources.Perm others) :
    ∃ mades', Outcomes b classpath template start others mades' ∧ mades.Perm mades' := by
  obtain ⟨mades', outcomes', perm'⟩ := List.perm_comp_forall₂ perm.symm outcomes
  exact ⟨mades', outcomes', perm'.symm⟩

variable (normal : output.IsNormal) (plain : '/' ∉ template.module.toList)
  (entries : ∀ entry ∈ classpath, EndsOutside start root entry)
include normal plain entries

theorem Fills.outcomes (filled : IsFilled output root start t)
    (scripts : ∀ source ∈ sources, EndsOutside start root source)
    (fills : Fills b classpath template output t sources mades ended) :
    Outcomes b classpath template start sources mades := by
  -- every tree on the way is the first one but for what is below the output directory
  induction fills with
  | nil => exact .nil
  | cons outcome put next ih =>
    refine .cons ((filled.scriptOutcome_iff plain entries (scripts _ List.mem_cons_self)).mp outcome) ?_
    exact ih (filled.put normal (confined_of_outcome outcome) put) fun source member =>
      scripts source (List.mem_cons_of_mem _ member)

/-- Scripts can be compiled one after the other where a tree that is to come has room for all their
files. -/
theorem Outcomes.fills {last : FileTree} (outcomes : Outcomes b classpath template start sources mades)
    (filled : IsFilled output root start t)
    (scripts : ∀ source ∈ sources, EndsOutside start root source) (grows : t.Grows last)
    (sound : last.IsSound) (unlinked : last.IsUnlinked)
    (room : last.HasRoomFor output (allOutputs mades)) :
    ∃ ended, Fills b classpath template output t sources mades ended := by
  -- every tree on the way can still grow to the last one
  induction outcomes generalizing t with
  | nil => exact ⟨t, .nil t⟩
  | @cons source made rest others first later ih =>
    have outcome := (filled.scriptOutcome_iff plain entries (scripts _ List.mem_cons_self)).mpr first
    have confined := confined_of_outcome outcome
    obtain ⟨t₁, put, grows₁⟩ := putOutputs_within normal filled.offers confined grows sound unlinked
      fun o member => room o (List.mem_append_left _ member)
    obtain ⟨ended, next⟩ := ih (filled.put normal confined put)
      (fun source member => scripts source (List.mem_cons_of_mem _ member)) grows₁
      fun o member => room o (List.mem_append_right _ member)
    exact ⟨ended, .cons outcome put next⟩

/-- Scripts whose classes have names of their own are compiled in every order if they are in one order, and
every order leaves the same tree. -/
theorem Fills.perm (offers : start.Offers output root)
    (scripts : ∀ source ∈ sources, EndsOutside start root source)
    (own : HasOwnNames template start sources)
    (fills : Fills b classpath template output start sources mades ended) (perm : sources.Perm others) :
    ∃ mades' ended', Fills b classpath template output start others mades' ended' ∧
      mades.Perm mades' ∧ ∀ place, ended'.get? place = ended.get? place := by
  have filled := IsFilled.refl offers
  have outcomes := fills.outcomes normal plain entries filled scripts
  obtain ⟨offers', grows, room, shows⟩ := fills.get? normal offers
  obtain ⟨mades', outcomes', perm'⟩ := outcomes.perm perm
  have files : (allOutputs mades).Perm (allOutputs mades') := perm'.flatMap_right _
  obtain ⟨ended', fills'⟩ := outcomes'.fills normal plain entries filled
    (fun source member => scripts source (perm.mem_iff.mpr member)) grows offers'.sound
    offers'.unlinked fun o member => room o (files.mem_iff.mpr member)
  obtain ⟨-, -, -, shows'⟩ := fills'.get? normal offers
  obtain ⟨distinct, named⟩ := own
  rw [outcomes.classes] at distinct named
  have agree := outcomes.areGenerated.agree (by rwa [List.map_map] at distinct)
    (fun made member => named made.1 (List.mem_map_of_mem member)) root
  refine ⟨mades', ended', fills', perm', fun place => ?_⟩
  rw [shows', shows, Outputs.entryAt_perm agree files]

end

namespace Batch

/-- Endings of two batches with the same classes, in some order, and with the same tree but for the
manifests. -/
structure IsReordered (file : Place) (results results' : List Compiled) (t t' : FileTree) : Prop where
  names : (manifest results).Perm (manifest results')
  manifests : t.get? file = some (.file (manifestContent (manifest results))) ∧
    t'.get? file = some (.file (manifestContent (manifest results')))
  others : ∀ place, place ≠ file → t'.get? place = t.get? place

section
variable {b : Backend} {template : Template} {context : ExecutionContext} {suffix : String} {depth : Nat}
  {output manifestPath : Path} {extra sources others : List Path} {results : List Compiled}
  {w w' : Workspace}

theorem runOver_perm (sound : w.files.IsSound) (unlinked : w.files.IsUnlinked)
    (plain : '/' ∉ template.module.toList) (normal : output.IsNormal) (normal' : manifestPath.IsNormal)
    (scripts : ∀ source ∈ sources, EndsOutside w.files (w.files.placeOf output) source)
    (entries : ∀ classpath w₀, assembleClasspath context extra w = .ok classpath w₀ →
      ∀ entry ∈ classpath, EndsOutside w.files (w.files.placeOf output) entry)
    (own : ∀ start, w.files.ensureDirectory output = .ok () start → HasOwnNames template start sources)
    (perm : sources.Perm others)
    (done : (Batch.mk template context (scriptToolchain b) suffix depth).runOver sources output
      manifestPath extra w = .ok results w') :
    ∃ results' w'', (Batch.mk template context (scriptToolchain b) suffix depth).runOver others output
      manifestPath extra w = .ok results' w'' ∧
      IsReordered (w.files.placeOf manifestPath) results results' w'.files w''.files := by
  obtain ⟨classpath, w₀, start, mades, t, assembled, made, fills, rfl, wrote⟩ := runOver_fills done
  have ensured := FileTree.ensures_of_ok sound unlinked normal made
  obtain ⟨mades', t', fills', perm', same⟩ := fills.perm normal plain
    (fun entry member => (entries classpath w₀ assembled entry member).grow ensured.grows) ensured.offers
    (fun source member => (scripts source member).grow ensured.grows) (own start made) perm
  obtain ⟨last, grows, -⟩ := fills.get? normal ensured.offers
  obtain ⟨-, grows', -⟩ := fills'.get? normal ensured.offers
  have current : t'.current = t.current := grows'.current.trans grows.current.symm
  have platform : t'.platform = t.platform := grows'.platform.trans grows.platform.symm
  obtain ⟨u, d, wrote', located, sets, sets'⟩ := FileTree.write_of_same same current platform wrote
    (manifestContent (manifest (mades'.map fun made => compiledOf output made.1)))
  have here : d.place = w.files.placeOf manifestPath := by
    rw [FileTree.locate_place last.unlinked normal' located, FileTree.placeOf_of_current grows.current,
      FileTree.placeOf_of_current ensured.grows.current]
  rw [here] at sets sets'
  obtain ⟨w'', ended, rfl⟩ := runOver_of_fills suffix depth assembled made fills' wrote'
  refine ⟨_, w'', ended, (perm'.map _).map _, ⟨sets.get?_self, sets'.get?_self⟩, fun place differ => ?_⟩
  rw [sets'.get?_of_ne differ, sets.get?_of_ne differ, same]

end

/-- The order of scripts whose classes have names of their own makes no difference to whether a batch ends
well, and to what it leaves none but the order of the manifest. -/
theorem order_makes_no_difference (b : Backend) (template : Template) (context : ExecutionContext)
    (suffix : String) (depth : Nat) (sources others : List String) (output manifestPath : String)
    (extra : List String) (w : Workspace) (sound : w.files.IsSound) (unlinked : w.files.IsUnlinked)
    (plain : '/' ∉ template.module.toList) (perm : sources.Perm others)
    (scripts : ∀ source ∈ sources.map Path.ofString,
      ¬ w.files.placeOf (Path.ofString output) <+: w.files.placeOf source ∧
        w.files.HasWay (w.files.placeOf (Path.ofString output)) source)
    (entries : ∀ classpath w₀, assembleClasspath context (extra.map Path.ofString) w = .ok classpath w₀ →
      ∀ entry ∈ classpath, ¬ w.files.placeOf (Path.ofString output) <+: w.files.placeOf entry ∧
        w.files.HasWay (w.files.placeOf (Path.ofString output)) entry)
    (own : ∀ start, w.files.ensureDirectory (Path.ofString output) = .ok () start →
      HasOwnNames template start (sources.map Path.ofString)) :
    let run (sources : List String) := (Batch.mk template context (scriptToolchain b) suffix depth).runOver
      (sources.map Path.ofString) (Path.ofString output) (Path.ofString manifestPath)
      (extra.map Path.ofString) w
    ((∃ results w', run sources = .ok results w') ↔ ∃ results w', run others = .ok results w') ∧
    ∀ results w' results' w'', run sources = .ok results w' → run others = .ok results' w'' →
      IsReordered (w.files.placeOf (Path.ofString manifestPath)) results results' w'.files w''.files := by
  intro run
  have normal := Path.isNormal_ofString output
  have normal' := Path.isNormal_ofString manifestPath
  have perm' : (sources.map Path.ofString).Perm (others.map Path.ofString) := perm.map _
  have scripts' : ∀ source ∈ sources.map Path.ofString,
      EndsOutside w.files (w.files.placeOf (Path.ofString output)) source := by
    intro source member
    obtain ⟨outside, way⟩ := scripts source member
    obtain ⟨text, -, rfl⟩ := List.mem_map.mp member
    exact ⟨Path.isNormal_ofString text, outside, way⟩
  have entries' : ∀ classpath w₀, assembleClasspath context (extra.map Path.ofString) w = .ok classpath w₀ →
      ∀ entry ∈ classpath, EndsOutside w.files (w.files.placeOf (Path.ofString output)) entry := by
    intro classpath w₀ assembled entry member
    obtain ⟨outside, way⟩ := entries classpath w₀ assembled entry member
    exact ⟨isNormal_of_classpathOf sound (classpathOf_of_assembled assembled) entry member, outside, way⟩
  -- Nothing that is asked of the sources depends on their order, so the way back is the way forth.
  have forth : ∀ results w', run sources = .ok results w' → ∃ results' w'', run others = .ok results' w'' ∧
      IsReordered (w.files.placeOf (Path.ofString manifestPath)) results results' w'.files w''.files := by
    intro results w' done
    exact runOver_perm sound unlinked plain normal normal' scripts' entries' own perm' done
  refine ⟨⟨?_, ?_⟩, ?_⟩
  · rintro ⟨results, w', done⟩
    obtain ⟨results', w'', ended, -⟩ := forth results w' done
    exact ⟨results', w'', ended⟩
  · rintro ⟨results, w', done⟩
    have others' := fun source member => scripts' source (perm'.mem_iff.mpr member)
    have own' := fun start made => (own start made).perm perm'
    obtain ⟨results', w'', ended, -⟩ :=
      runOver_perm sound unlinked plain normal normal' others' entries' own' perm'.symm done
    exact ⟨results', w'', ended⟩
  · intro results w' results' w'' one two
    obtain ⟨results₁, w₁, ended, reordered⟩ := forth results w' one
    cases ended.symm.trans two
    exact reordered

set_option maxRecDepth 100000 in
/-- The conditions hold of two scripts with a library, in both orders of which the batch ends well. -/
theorem sample_order :
    let w := sampleWorkspace "y.plugin.py"
    let run (sources : List String) := sample.runOver (sources.map Path.ofString) (Path.ofString "out")
      (Path.ofString "m") [] w
    ∃ results w' results' w'', run ["in/a/x.plugin.py", "in/b/y.plugin.py"] = .ok results w' ∧
      run ["in/b/y.plugin.py", "in/a/x.plugin.py"] = .ok results' w'' ∧
      IsReordered ["m"] results results' w'.files w''.files := by
  intro w run
  have both : names (run ["in/a/x.plugin.py", "in/b/y.plugin.py"]) = ["X_plugin", "Y_plugin"] := by
    decide +kernel
  obtain ⟨results, w', ended, -⟩ := ok_of_names (by rw [both]; exact List.cons_ne_nil _ _)
  have entries : ∀ classpath w₀, assembleClasspath sample.context [] w = .ok classpath w₀ →
      ∀ entry ∈ classpath, ¬ w.files.placeOf (Path.ofString "out") <+: w.files.placeOf entry ∧
        w.files.HasWay (w.files.placeOf (Path.ofString "out")) entry := by
    intro classpath w₀ assembled entry member
    have known : classpathOf sample.context [] w.files.here = .ok [Path.ofString "lib"] := by
      decide +kernel
    cases known.symm.trans (classpathOf_of_assembled assembled)
    rw [List.mem_singleton.mp member]
    decide +kernel
  have own : ∀ start, w.files.ensureDirectory (Path.ofString "out") = .ok () start →
      HasOwnNames .plugin start (["in/a/x.plugin.py", "in/b/y.plugin.py"].map Path.ofString) := by
    intro start made
    have known : w.files.ensureDirectory (Path.ofString "out") =
        .ok () (w.files.put ["out"] .directory) := by rfl
    cases known.symm.trans made
    exact ⟨by decide +kernel, by decide +kernel⟩
  obtain ⟨goes, same⟩ := order_makes_no_difference (fun _ _ => []) .plugin _ defaultSuffix 2
    ["in/a/x.plugin.py", "in/b/y.plugin.py"] ["in/b/y.plugin.py", "in/a/x.plugin.py"] "out" "m" [] w
    (by decide +kernel) (by decide +kernel) (by decide) (.swap ..) (by decide +kernel) entries own
  obtain ⟨results', w'', ended'⟩ := goes.mp ⟨results, w', ended⟩
  exact ⟨results, w', results', w'', ended, ended', same results w' results' w'' ended ended'⟩

/-- A script of the package `p` and one that needs a module. The module lies in an entry of the classpath
whose path goes through the directory of the package, which is not there before the first script is
compiled. -/
def detourOrder : Batch :=
  ⟨.plugin, ⟨some [], some [.string "lib", .string "lib/../out/p/../../more"]⟩,
    scriptToolchain fun _ _ => [], defaultSuffix, 2⟩

def detourOrderWorkspace : Workspace :=
  ⟨⟨[(["lib"], .directory), (["lib", "toolchain"], .directory), (["more"], .directory),
    (["more", "dep.py"], .file []), (["in"], .directory),
    (["in", "a.plugin.py"], .file ("__package__ = 'p'\n".toList.flatMap encodeChar)),
    (["in", "b.plugin.py"], .file ("import dep\n".toList.flatMap encodeChar))], [], .plain⟩, [], [], [], []⟩

set_option maxRecDepth 100000 in
/-- Where an entry's path goes through a directory that a script makes, a batch may end well in one order
and fail in another one. -/
theorem order_matters_behind_detour :
    let files := detourOrderWorkspace.files
    let root := files.placeOf (Path.ofString "out")
    let run (sources : List String) := detourOrder.runOver (sources.map Path.ofString)
      (Path.ofString "out") (Path.ofString "m") [] detourOrderWorkspace
    let sources := ["in/a.plugin.py", "in/b.plugin.py"]
    files.IsSound ∧ files.IsUnlinked ∧
    (∀ p ∈ sources ++ ["m", "lib", "lib/../out/p/../../more"],
      ¬ root <+: files.placeOf (Path.ofString p)) ∧
    ((sources.map Path.ofString).filterMap (classAt .plugin files)).map (·.qualifiedName) =
      ["p.A_plugin", "B_plugin"] ∧
    names (run sources) = ["p.A_plugin", "B_plugin"] ∧ fails (run sources.reverse) = true := by
  decide +kernel

end Batch

end PluginBuild
