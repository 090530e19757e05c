import PluginBuild.Proofs.ScriptLists

/-!
Running a batch again in the files that it left. The second run starts with the compiled files in the
output directory and with the manifest; the sources read the same, modules that were provided are
provided still, and every file is written over with the content that it has.
-/

namespace PluginBuild

open PluginBuild.Files PluginBuild.Script PluginBuild.Text

/-- A tree that has grown from another one below a place and at the place of a file. -/
structure IsLater (root file : Place) (t t' : FileTree) : Prop where
  grows : t.Grows t'
  others : ∀ q, ¬ root <+: q → q ≠ file → t'.get? q = t.get? q
  content : ∃ bytes, t'.get? file = some (.file bytes)

/-- An entry of a classpath that does not end strictly below a place or at a file, and for which the
directories below that place are there that it goes through. -/
structure StandsApart (t : FileTree) (root file : Place) (entry : Path) : Prop where
  normal : entry.IsNormal
  outside : t.placeOf entry = root ∨ ¬ root <+: t.placeOf entry
  differs : t.placeOf entry ≠ file
  way : t.HasWay root entry

section
variable {root file : Place} {t t' t₁ t₁' : FileTree} {entry source output : Path}

theorem StandsApart.grow (apart : StandsApart t root file entry) (grows : t.Grows t') :
    StandsApart t' root file entry := by
  refine ⟨apart.normal, ?_, ?_, apart.way.grow grows⟩
  · rw [FileTree.placeOf_of_current grows.current]
    exact apart.outside
  · rw [FileTree.placeOf_of_current grows.current]
    exact apart.differs

namespace IsLater

theorem entryStays (later : IsLater root file t t') (offers : t.Offers output root)
    (offers' : t'.Offers output root) (apart : StandsApart t root file entry) :
    EntryStays t t' entry := by
  have here := FileTree.locate_entry offers.sound offers.leads
  have here' := FileTree.locate_entry offers'.sound offers'.leads
  refine ⟨apart.normal, ?_, fun name x there => ?_⟩
  · refine FileTree.status?_outside offers.unlinked offers'.unlinked later.grows.current apart.normal
      (fun q beside => ?_) apart.way (apart.way.grow later.grows) ?_
    · rcases beside with rfl | outside
      · rw [here, here']
      · by_cases same : q = file
        · obtain ⟨bytes, now⟩ := later.content
          constructor
          · intro directory
            rw [same, now] at directory
            exact nomatch directory
          · exact later.grows.directory
        · rw [later.others q outside same]
    · rcases apart.outside with same | outside
      · rw [same, here, here']
      · exact later.others _ outside apart.differs
  · rw [FileTree.placeOf_of_current later.grows.current]
    exact later.grows.keeps _ x there

theorem put (later : IsLater root file t t') (beside : ¬ root <+: file) (outputs : Outputs)
    (grows : t₁.Grows t₁')
    (shows : ∀ q, t₁.get? q = (Outputs.entryAt root outputs q).or (t.get? q))
    (shows' : ∀ q, t₁'.get? q = (Outputs.entryAt root outputs q).or (t'.get? q)) :
    IsLater root file t₁ t₁' := by
  refine ⟨grows, fun q outside differ => ?_, ?_⟩
  · rw [shows, shows', Outputs.entryAt_outside outside, Option.none_or, Option.none_or]
    exact later.others q outside differ
  · rw [shows', Outputs.entryAt_outside beside, Option.none_or]
    exact later.content

end IsLater

/-- A source that is read outside of a place and not from a file. -/
structure IsReadApart (t : FileTree) (root file : Place) (source : Path) : Prop where
  normal : source.IsNormal
  outside : ¬ root <+: t.placeOf (t.absolute source)
  differs : t.placeOf (t.absolute source) ≠ file

theorem IsReadApart.grow (apart : IsReadApart t root file source) (grows : t.Grows t') :
    IsReadApart t' root file source := by
  have same : t'.placeOf (t'.absolute source) = t.placeOf (t.absolute source) := by
    rw [FileTree.absolute_of_current grows.current, FileTree.placeOf_of_current grows.current]
  exact ⟨apart.normal, same ▸ apart.outside, same ▸ apart.differs⟩

variable {b : Backend} {classpath : List Path} {template : Template} {sources : List Path}
  {mades : List (PluginClass × Outputs)} {ended : FileTree}

/-- Scripts that have come to their files come to them again, where these files are there already. -/
theorem Fills.again (normal : output.IsNormal) (beside : ¬ root <+: file)
    (plain : '/' ∉ template.module.toList)
    (fills : Fills b classpath template output t sources mades ended)
    (offers : t.Offers output root) (offers' : t'.Offers output root) (later : IsLater root file t t')
    (grows : ended.Grows t') (entries : ∀ entry ∈ classpath, StandsApart t root file entry)
    (scripts : ∀ source ∈ sources, IsReadApart t root file source) :
    ∃ ended', Fills b classpath template output t' sources mades ended' := by
  induction fills generalizing t' with
  | nil => exact ⟨t', .nil t'⟩
  | @cons source rest made others t t₁ ended outcome put next ih =>
    have confined := confined_of_outcome outcome
    obtain ⟨offers₁, grows₁, -, shows₁⟩ := putOutputs_get? normal offers confined put
    obtain ⟨-, -, room, -⟩ := (Fills.cons outcome put next).get? normal offers
    have script := scripts source List.mem_cons_self
    have outcome' : scriptOutcome b classpath template t' source = .ok made := by
      refine scriptOutcome_stays (fun entry member => later.entryStays offers offers' (entries entry member))
        offers.unlinked offers'.unlinked later.grows.platform
        (FileTree.absolute?_of_current offers.sound offers'.sound later.grows.current source)
        (fun bytes read => ?_) plain outcome
      exact read_of_grows offers.sound offers.unlinked
        (FileTree.isNormal_absolute offers.sound script.normal) later.grows
        (later.others _ script.outside script.differs) read
    have room' : t'.HasRoomFor output made.2 := fun o member =>
      room.grow grows o (List.mem_append_left _ member)
    obtain ⟨t₁', put', -⟩ := putOutputs_within normal offers' confined (.refl t') offers'.sound
      offers'.unlinked room'
    obtain ⟨offers₁', grows₁', -, shows₁'⟩ := putOutputs_get? normal offers' confined put'
    have last : t₁.Grows t₁' := (next.get? normal offers₁).2.1.trans (grows.trans grows₁')
    obtain ⟨ended', more⟩ := ih offers₁ offers₁' (later.put beside made.2 last shows₁ shows₁')
      (grows.trans grows₁') (fun entry member => (entries entry member).grow grows₁)
      fun source member => (scripts source (List.mem_cons_of_mem _ member)).grow grows₁
    exact ⟨ended', .cons outcome' put' more⟩

variable {manifestPath : Path} {content : Bytes} {left : FileTree}

theorem Fills.leaves (normal : output.IsNormal) (normal' : manifestPath.IsNormal)
    (offers : t.Offers output root) (fills : Fills b classpath template output t sources mades ended)
    (wrote : ended.write manifestPath.text content = .ok () left) :
    let file := t.placeOf manifestPath
    ended.Sets file (.file content) left ∧ left.Offers output root ∧ IsLater root file t left ∧
      left.locate true manifestPath.text = .ok (.found file (.file content)) := by
  intro file
  obtain ⟨offersEnd, grows, -, shows⟩ := fills.get? normal offers
  obtain ⟨d, located, sets, leads⟩ := FileTree.write_ok wrote
  have written : d.place = file := by
    rw [FileTree.locate_place offersEnd.unlinked normal' located, FileTree.placeOf_of_current grows.current]
  rw [written] at sets leads
  obtain ⟨sound, unlinked⟩ := FileTree.write_isSound offersEnd.sound offersEnd.unlinked wrote
  refine ⟨sets, ⟨sound, unlinked, FileTree.locate_grow_directory offersEnd.leads sets.grows⟩, ?_, leads⟩
  refine ⟨grows.trans sets.grows, fun q outside differ => ?_, content, sets.get?_self⟩
  rw [sets.get?_of_ne differ, shows, Outputs.entryAt_outside outside, Option.none_or]

/-- The same scripts and the same manifest change nothing in what they have left. -/
theorem Fills.rewrites {again : FileTree} (normal : output.IsNormal) (beside : ¬ root <+: file)
    (offers : t.Offers output root) (fills : Fills b classpath template output t sources mades ended)
    (sets : ended.Sets file (.file content) left) (offers' : left.Offers output root)
    (leads : left.locate true manifestPath.text = .ok (.found file (.file content)))
    (fills' : Fills b classpath template output left sources mades again) : ∃ last,
      again.write manifestPath.text content = .ok () last ∧ ∀ q, last.get? q = left.get? q := by
  obtain ⟨-, -, -, shows⟩ := fills.get? normal offers
  obtain ⟨-, grows, -, shows'⟩ := fills'.get? normal offers'
  have still : ∀ q, again.get? q = left.get? q := by
    intro q
    rw [shows']
    cases made : Outputs.entryAt root (allOutputs mades) q with
    | none => rfl
    | some x =>
      have differ : q ≠ file := by
        rintro rfl
        rw [Outputs.entryAt_outside beside] at made
        exact nomatch made
      rw [sets.get?_of_ne differ, shows, made]
      rfl
  obtain ⟨now, leads', -⟩ := FileTree.locate_grow_file leads grows
  refine ⟨_, FileTree.write_of_found leads' content, fun q => ?_⟩
  rw [FileTree.get?_put _ _ sets.inside]
  by_cases here : q = file
  · rw [if_pos here, here, sets.get?_self]
  · rw [if_neg here, still]

end

namespace Batch

/-- A batch that ended well ends well again in the files that it left, with the same results, and
changes nothing. -/
theorem rerun_changes_nothing (b : Backend) (template : Template) (context : ExecutionContext)
    (suffix : String) (depth : Nat) (input output manifestPath : String) (extra : List String)
    (w : Workspace) (sound : w.files.IsSound) (unlinked : w.files.IsUnlinked)
    (plain : '/' ∉ template.module.toList)
    (apart : ([output, input, manifestPath].map fun s =>
      w.files.placeOf (Path.ofString s)).Pairwise AreApart)
    (entries : ∀ classpath w₀, assembleClasspath context (extra.map Path.ofString) w = .ok classpath w₀ →
      ∀ entry ∈ classpath,
        (w.files.placeOf entry = w.files.placeOf (Path.ofString output) ∨
          ¬ w.files.placeOf (Path.ofString output) <+: w.files.placeOf entry) ∧
        w.files.placeOf entry ≠ w.files.placeOf (Path.ofString manifestPath) ∧
        w.files.HasWay (w.files.placeOf (Path.ofString output)) entry)
    {results : List Compiled} {w' : Workspace}
    (done : (Batch.mk template context (scriptToolchain b) suffix depth).run (Path.ofString input)
      (Path.ofString output) (Path.ofString manifestPath) (extra.map Path.ofString) w =
        .ok results w') :
    ∀ v : Workspace, v.files = w'.files → ∃ v',
      (Batch.mk template context (scriptToolchain b) suffix depth).run (Path.ofString input)
        (Path.ofString output) (Path.ofString manifestPath) (extra.map Path.ofString) v =
          .ok results v' ∧
      ∀ place, v'.files.get? place = w'.files.get? place := by
  intro v same
  let directory := Path.ofString output
  let root := w.files.placeOf directory
  let file := w.files.placeOf (Path.ofString manifestPath)
  have normal : directory.IsNormal := Path.isNormal_ofString output
  have normal' : (Path.ofString input).IsNormal := Path.isNormal_ofString input
  simp only [List.map_cons, List.map_nil, List.pairwise_cons, List.mem_cons, List.not_mem_nil, or_false,
    forall_eq_or_imp, forall_eq, false_implies, implies_true, List.Pairwise.nil, and_true] at apart
  obtain ⟨⟨between, beside⟩, within⟩ := apart
  obtain ⟨start, sources, made, found, done⟩ := runOver_of_run sound unlinked normal normal' between done
  obtain ⟨classpath, w₀, start, mades, ended, assembled, made', fills, rfl, wrote⟩ := runOver_fills done
  cases made.symm.trans made'
  have ensured := FileTree.ensures_of_ok sound unlinked normal made
  have offers : start.Offers directory root := ensured.offers
  have place := FileTree.placeOf_of_current ensured.grows.current
  rw [← place (Path.ofString input)] at between within
  obtain ⟨sets, offers', later, leads⟩ :=
    fills.leaves normal (Path.isNormal_ofString manifestPath) offers wrote
  rw [place] at sets later leads
  have entries' : ∀ entry ∈ classpath, StandsApart start root file entry := by
    intro entry member
    obtain ⟨outside, differs, way⟩ := entries classpath w₀ assembled entry member
    have valid := isNormal_of_classpathOf sound (classpathOf_of_assembled assembled) entry member
    exact StandsApart.grow ⟨valid, outside, differs, way⟩ ensured.grows
  have scripts : ∀ source ∈ sources, IsReadApart start root file source := by
    intro source member
    obtain ⟨valid, below⟩ :=
      Search.placeOf_of_find ensured.sound ensured.unlinked normal' found source member
    exact ⟨valid, between.outside below, fun same => within.left (show _ <+: file from same ▸ below)⟩
  -- the second run writes over what the first one wrote
  obtain ⟨again, fills'⟩ :=
    fills.again normal beside.left plain offers offers' later sets.grows entries' scripts
  obtain ⟨last, wrote', still⟩ := fills.rewrites normal beside.left offers sets offers' leads fills'
  -- and comes to the same steps
  have here : v.files.here = w.files.here := by
    rw [same, FileTree.here, FileTree.here, if_pos sound.current, if_pos offers'.sound.current,
      later.grows.current, ensured.grows.current]
  obtain ⟨v₀, assembled'⟩ := assembled_of_here assembled here
  have stays : v.files.ensureDirectory directory = .ok () w'.files := by
    rw [same]
    refine FileTree.ensureDirectory_of_directory (q := root) ?_
    rw [FileTree.locate_anyhow offers'.unlinked]
    exact offers'.leads
  have untouched : IsUntouched (start.placeOf (Path.ofString input)) start w'.files := by
    refine ⟨later.grows, offers'.sound, offers'.unlinked, fun q below => ?_⟩
    refine later.others q (between.outside below) ?_
    rintro rfl
    exact within.left below
  obtain ⟨v', ran, rfl⟩ := runOver_of_fills suffix depth assembled' stays fills' wrote'
  refine ⟨v', ?_, still⟩
  rw [run_eq_runOver normal normal' offers between found assembled' stays untouched]
  exact ran

set_option maxRecDepth 100000 in
/-- The conditions hold of a batch that compiles two scripts with a library. -/
theorem sample_rerun : ∃ results w',
    sample.run (Path.ofString "in") (Path.ofString "out") (Path.ofString "m") []
      (sampleWorkspace "y.plugin.py") = .ok results w' ∧
    ∀ v : Workspace, v.files = w'.files → ∃ v',
      sample.run (Path.ofString "in") (Path.ofString "out") (Path.ofString "m") [] v = .ok results v' ∧
      ∀ place, v'.files.get? place = w'.files.get? place := by
  have both : names (sample.run (Path.ofString "in") (Path.ofString "out") (Path.ofString "m") []
      (sampleWorkspace "y.plugin.py")) = ["X_plugin", "Y_plugin"] := by decide +kernel
  obtain ⟨results, w', ended, -⟩ := ok_of_names (by rw [both]; exact List.cons_ne_nil _ _)
  refine ⟨results, w', ended, ?_⟩
  refine rerun_changes_nothing (fun _ _ => []) .plugin _ defaultSuffix 2 "in" "out" "m" []
    (sampleWorkspace "y.plugin.py") (by decide +kernel) (by decide +kernel) (by decide) (by decide +kernel) ?_ ended
  intro classpath w₀ assembled entry member
  have known : classpathOf sample.context [] (sampleWorkspace "y.plugin.py").files.here =
      .ok [Path.ofString "lib"] := by decide +kernel
  cases known.symm.trans (classpathOf_of_assembled assembled)
  rw [List.mem_singleton.mp member]
  decide +kernel

/-- A broken archive: the end of one, which tells of a member that is not there. -/
def brokenArchive : Bytes :=
  List.replicate 46 0 ++ [0x50, 0x4B, 5, 6, 0, 0, 0, 0, 1, 0, 1, 0, 46, 0, 0, 0, 0, 0, 0, 0, 0, 0]

/-- A script of the package `p` with a library and with a broken archive on the classpath. The archive's
path goes through the directory of the package, which is not there before the script is compiled. -/
def detour : Batch :=
  ⟨.plugin, ⟨some [], some [.string "lib/../out/p/../../bad.zip", .string "lib"]⟩,
    scriptToolchain fun _ _ => [], defaultSuffix, 2⟩

def detourWorkspace : Workspace :=
  ⟨⟨[(["lib"], .directory), (["lib", "toolchain"], .directory), (["in"], .directory),
    (["in", "x.plugin.py"], .file ("__package__ = 'p'\n".toList.flatMap encodeChar)),
    (["bad.zip"], .file brokenArchive)], [], .plain⟩, [], [], [], []⟩

set_option maxRecDepth 100000 in
/-- Where an entry's path goes through a directory that the batch makes, a batch may end well and fail
when it is run again. -/
theorem rerun_fails_behind_detour :
    let files := detourWorkspace.files
    let root := files.placeOf (Path.ofString "out")
    let ending := detour.run (Path.ofString "in") (Path.ofString "out") (Path.ofString "m") [] detourWorkspace
    files.IsSound ∧ files.IsUnlinked ∧
    (["out", "in", "m"].map fun s => files.placeOf (Path.ofString s)).Pairwise AreApart ∧
    (∀ entry ∈ ["lib/../out/p/../../bad.zip", "lib"].map Path.ofString,
      ¬ root <+: files.placeOf entry ∧ files.placeOf entry ≠ files.placeOf (Path.ofString "m")) ∧
    names ending = ["p.X_plugin"] ∧
    fails (detour.run (Path.ofString "in") (Path.ofString "out") (Path.ofString "m") []
      (finalState ending)) = true := by
  decide +kernel

end Batch

end PluginBuild
