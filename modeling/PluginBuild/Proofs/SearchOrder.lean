import PluginBuild.Proofs.Preorder
import PluginBuild.Script.Codecs

/-!
What a search finds, in every tree and from every directory. It is the walk over all scripts that are
not too deep, unless a directory that it comes to has a path that is too long to be listed or is nested
too deep.
-/

namespace PluginBuild

open PluginBuild.Files PluginBuild.Text

theorem anchorOf_append {chars more : List Char} (some : chars ≠ [])
    (apart : chars.getLast? = Option.some '/' → more.head? ≠ Option.some '/') :
    Path.anchorOf (chars ++ more) = Path.anchorOf chars := by
  rcases chars with _ | ⟨c, _ | ⟨d, _ | ⟨e, rest⟩⟩⟩
  · exact absurd rfl some
  · by_cases slash : c = '/'
    · subst slash
      have next := apart rfl
      cases more with
      | nil => rfl
      | cons m more =>
        have differ : m ≠ '/' := by simpa using next
        simp [Path.anchorOf, differ]
    · simp [Path.anchorOf, slash]
  · by_cases slash : d = '/'
    · subst slash
      have next := apart rfl
      cases more with
      | nil => rfl
      | cons m more =>
        have differ : m ≠ '/' := by simpa using next
        by_cases first : c = '/' <;> simp [Path.anchorOf, first, differ]
    · by_cases first : c = '/' <;> simp [Path.anchorOf, first, slash]
  · by_cases first : c = '/' <;> by_cases second : d = '/' <;> by_cases third : e = '/' <;>
      simp [Path.anchorOf, first, second, third]

section
variable {directory name : String}

theorem ofString_inside (nonempty : directory ≠ "") (valid : IsFileName name) :
    Path.ofString (inside directory name) = (Path.ofString directory).child name := by
  have parts : (Path.ofString (inside directory name)).parts =
      (Path.ofString directory).parts ++ [name] := by
    rw [← Path.names_eq_parts, ← Path.names_eq_parts, route_inside valid]
  have anchor : (Path.ofString (inside directory name)).anchor = (Path.ofString directory).anchor := by
    have some : directory.toList ≠ [] := mt String.toList_eq_nil_iff.mp nonempty
    show Path.anchorOf (inside directory name).toList = Path.anchorOf directory.toList
    unfold inside
    split
    · rw [String.toList_append]
      refine anchorOf_append some fun _ separated => valid.noSeparator ?_
      exact List.mem_of_mem_head? separated
    · rename_i unended
      rw [String.toList_append, String.toList_append, List.append_assoc]
      refine anchorOf_append some fun ended => absurd ?_ unended
      obtain ⟨front, whole⟩ := List.getLast?_eq_some_iff.mp ended
      rw [endsWith, List.isSuffixOf_iff_suffix]
      exact ⟨front, whole.symm⟩
  rw [Path.child_of_isFileName _ valid, ← anchor, ← parts]

theorem resolve_inside (nonempty : directory ≠ "") (valid : IsFileName name) (rest : List String) :
    (Path.ofString (inside directory name)).resolve ⟨.here, rest⟩ =
      (Path.ofString directory).resolve ⟨.here, name :: rest⟩ := by
  rw [ofString_inside nonempty valid, Path.child_of_isFileName _ valid,
    Path.parts_resolve_of_relative _ rfl, Path.parts_resolve_of_relative _ rfl]
  simp

theorem child_eq_resolve (path : Path) (valid : IsFileName name) :
    path.child name = path.resolve ⟨.here, [name]⟩ := by
  rw [Path.child_of_isFileName _ valid]
  exact (Path.parts_resolve_of_relative path (p := ⟨.here, [name]⟩) rfl).symm

theorem utf8ByteSize_inside (directory name : String) :
    directory.utf8ByteSize + name.utf8ByteSize ≤ (inside directory name).utf8ByteSize := by
  unfold inside
  split <;> simp only [String.utf8ByteSize_append] <;> omega

theorem noNull_inside (plain : '\x00' ∉ directory.toList) (valid : IsFileName name) :
    '\x00' ∉ (inside directory name).toList := by
  unfold inside
  split <;> simp [plain, valid.noNull]

end

/-- The directories that a search from a directory comes to. -/
def IsSearched (t : FileTree) (depth : Nat) (p : Place) (front : List String) : Prop :=
  Descends t p front ∧ (front = [] ∨ front.length < depth)

def IsOverlong (s : String) : Prop := maxPathLength < s.utf8ByteSize

/-- A directory that a search cannot get past: its path is too long, or there is no room left for going
on into what is listed as a directory in it. -/
inductive Stops (t : FileTree) (room depth : Nat) (directory : String) (p : Place) (front : List String) :
    Failure → Prop
  | overlong (long : IsOverlong (walked directory front)) :
    Stops t room depth directory p front (.file (.refused .nameTooLong (walked directory front)))
  | tooNested {name : String} (last : front.length = room) (further : front.length + 1 < depth)
    (listed : name ∈ t.names (p ++ front))
    (directories : t.isListedDirectory (walked directory front) (p ++ front) name = true) :
    Stops t room depth directory p front .tooNested

/-- No directory that a search comes to stops it. -/
def IsSearchable (t : FileTree) (room depth : Nat) (directory : String) (p : Place) : Prop :=
  ∀ front, IsSearched t depth p front → ∀ e, ¬ Stops t room depth directory p front e

/-- What a directory lists, seen by a path that leads to it. -/
def Files.FileTree.listing (t : FileTree) (directory : String) (p : Place) : FileTree.Listing :=
  ⟨(t.names p).filter (t.isListedDirectory directory p),
    (t.names p).filter fun name => !t.isListedDirectory directory p name⟩

/-- The scripts below a directory as paths. -/
def scriptPaths (t : FileTree) (suffix : String) (depth : Nat) (directory : String) (p : Place) : List Path :=
  (scriptsBelow t suffix depth directory p).map fun names =>
    (Path.ofString directory).resolve ⟨.here, names⟩

/-- How a search from a directory ends: it finds the walk over it, or comes to a directory that stops it. -/
def Search.Ends (s : Search) (t : FileTree) (room depth : Nat) (directory : String) (p : Place)
    (ending : Except Failure (List Path)) : Prop :=
  IsSearchable t room depth directory p ∧ ending = .ok (scriptPaths t s.suffix depth directory p) ∨
    ∃ front e, IsSearched t depth p front ∧ Stops t room depth directory p front e ∧ ending = .error e

namespace Files.FileTree.Reaches

variable {t : FileTree} {directory name : String} {p : Place}

theorem isListedDirectory_and_not_isLink (reaches : t.Reaches directory p) (sound : t.IsSound)
    (nonempty : directory ≠ "") :
    (t.isListedDirectory directory p name && !t.isLink (PluginBuild.inside directory name)) =
      (t.get? (p ++ [name]) == some .directory) := by
  unfold isListedDirectory isLink
  cases there : t.get? (p ++ [name]) with
  | none => rfl
  | some x =>
    have valid := sound.named there
    have way {d : Destination} (last : ∀ links, t.follow false links p [name] false = .ok d) :=
      reaches.way_inside nonempty valid.valid last
    cases x with
    | file content => rfl
    | directory =>
      have end_ := way fun links => follow_of_way (.directory valid.isLookedUp there .here)
      cases located : t.locate false (PluginBuild.inside directory name) with
      | error e => rfl
      | ok d =>
        rw [(locate_eq_ok_iff.mp located).2.unique end_]
        rfl
    | link target =>
      dsimp only
      split
      · rename_i q found
        have end_ := way fun links => follow_of_way (.link valid.isLookedUp there rfl)
        rw [locate_eq_ok_iff.mpr ⟨(locate_eq_ok_iff.mp found).1, end_⟩]
        rfl
      · rfl

theorem list_eq (reaches : t.Reaches directory p) (usable : IsPathText directory) :
    t.list directory = .ok (t.listing directory p) := by
  unfold FileTree.list
  rw [reaches.locate usable]
  simp only [List.partition_eq_filter_filter]
  rfl

end Files.FileTree.Reaches

theorem mapM_ok_or_error {α β ε : Type} {f : α → Except ε β} {g : α → β} {good : α → Prop}
    {bad : α → ε → Prop} {xs : List α}
    (each : ∀ x ∈ xs, good x ∧ f x = .ok (g x) ∨ ∃ e, bad x e ∧ f x = .error e) :
    (∀ x ∈ xs, good x) ∧ xs.mapM f = .ok (xs.map g) ∨ ∃ x ∈ xs, ∃ e, bad x e ∧ xs.mapM f = .error e := by
  induction xs with
  | nil => exact .inl ⟨List.forall_mem_nil _, rfl⟩
  | cons x rest ih =>
    rw [List.mapM_cons]
    rcases each x List.mem_cons_self with ⟨here, done⟩ | ⟨e, may, failed⟩
    · rcases ih fun y member => each y (List.mem_cons_of_mem x member) with
        ⟨later, all⟩ | ⟨y, member, e, may, failed⟩
      · refine .inl ⟨List.forall_mem_cons.mpr ⟨here, later⟩, ?_⟩
        rw [done, all]
        rfl
      · refine .inr ⟨y, List.mem_cons_of_mem x member, e, may, ?_⟩
        rw [done, failed]
        rfl
    · refine .inr ⟨x, List.mem_cons_self, e, may, ?_⟩
      rw [failed]
      rfl

namespace Search

theorem level_root {s : Search} (normal : s.root.IsNormal) : s.level s.root.text = 0 := by
  rw [level, Path.ofString_text normal, Int.sub_self]

/-- Going by the parts of its path, a directory is one level below the one that it is in. -/
theorem level_inside (s : Search) {directory name : String} (nonempty : directory ≠ "")
    (valid : IsFileName name) : s.level (inside directory name) = s.level directory + 1 := by
  have count : (Path.ofString (inside directory name)).partCount = (Path.ofString directory).partCount + 1 := by
    rw [ofString_inside nonempty valid, Path.child_of_isFileName _ valid, Path.partCount, Path.partCount,
      List.length_append, List.length_singleton, Nat.add_right_comm]
    rfl
  rw [level, level, count]
  omega

end Search

section
variable {t : FileTree} {directory name : String} {p : Place} {room depth : Nat} {front : List String}
  {e : Failure}

theorem isSearched_cons : IsSearched t (depth + 1) p (name :: front) ↔
    depth ≠ 0 ∧ t.get? (p ++ [name]) = some .directory ∧ IsSearched t depth (p ++ [name]) front := by
  constructor
  · rintro ⟨descends, empty | short⟩
    · exact nomatch empty
    · cases descends with
      | inside there later =>
        rw [List.length_cons] at short
        exact ⟨by omega, there, later, .inr (by omega)⟩
  · rintro ⟨some, there, later, short⟩
    refine ⟨.inside there later, .inr ?_⟩
    rcases short with rfl | short
    · rw [List.length_singleton]
      omega
    · rw [List.length_cons]
      omega

theorem isSearched_nil : IsSearched t depth p [] := ⟨.here, .inl rfl⟩

theorem stops_cons : Stops t (room + 1) (depth + 1) directory p (name :: front) e ↔
    Stops t room depth (inside directory name) (p ++ [name]) front e := by
  have place : p ++ name :: front = p ++ [name] ++ front := by simp
  constructor
  · intro stops
    cases stops with
    | overlong long => exact .overlong long
    | tooNested last further listed directories =>
      rw [place] at listed directories
      exact .tooNested (Nat.succ.inj last) (Nat.lt_of_succ_lt_succ further) listed directories
  · intro stops
    cases stops with
    | overlong long => exact .overlong long
    | tooNested last further listed directories =>
      rw [← place] at listed directories
      exact .tooNested (congrArg (· + 1) last) (Nat.succ_lt_succ further) listed directories

theorem IsSearchable.mono {less : Nat} (fits : IsSearchable t room depth directory p) (le : less ≤ depth) :
    IsSearchable t room less directory p := by
  rintro front ⟨descends, short⟩ e stops
  refine fits front ⟨descends, short.imp_right fun short => Nat.lt_of_lt_of_le short le⟩ e ?_
  cases stops with
  | overlong long => exact .overlong long
  | tooNested last further listed directories =>
    exact .tooNested last (Nat.lt_of_lt_of_le further le) listed directories

theorem isFileName_of_mem_names (sound : t.IsSound) (listed : name ∈ t.names p) : IsFileName name := by
  obtain ⟨x, there⟩ := Option.isSome_iff_exists.mp (FileTree.mem_names.mp listed)
  exact (sound.named there).valid

theorem isListedDirectory_of_directory (there : t.get? (p ++ [name]) = some .directory) :
    t.isListedDirectory directory p name = true := by
  rw [FileTree.isListedDirectory, there]

theorem isSearchable_of_last (short : ¬ IsOverlong directory)
    (last : depth ≤ 1 ∨ ∀ name ∈ t.names p, t.isListedDirectory directory p name = false) :
    IsSearchable t room depth directory p := by
  have none {name : String} (there : t.get? (p ++ [name]) = some .directory) (further : 1 < depth) : False := by
    rcases last with less | nothing
    · omega
    · have listed : name ∈ t.names p := FileTree.mem_names.mpr (by rw [there]; rfl)
      exact nomatch (isListedDirectory_of_directory there).symm.trans (nothing name listed)
  rintro front ⟨descends, less⟩ e stops
  cases descends with
  | inside there later =>
    rcases less with empty | less
    · exact nomatch empty
    · exact none there (Nat.lt_of_le_of_lt (Nat.le_add_left 1 _) less)
  | here =>
    cases stops with
    | overlong long => exact short long
    | @tooNested name _ further listed directories =>
      rw [List.append_nil] at listed directories
      rcases last with less | nothing
      · exact absurd further (by simpa using less)
      · exact nomatch directories.symm.trans (nothing name listed)

theorem isSearchable_succ (short : ¬ IsOverlong directory)
    (deeper : ∀ name ∈ t.subdirectories p, IsSearchable t room depth (inside directory name) (p ++ [name])) :
    IsSearchable t (room + 1) (depth + 1) directory p := by
  intro front searched e stops
  cases front with
  | nil =>
    cases stops with
    | overlong long => exact short long
    | tooNested last => exact nomatch last
  | cons name front =>
    obtain ⟨-, there, later⟩ := isSearched_cons.mp searched
    exact deeper name (FileTree.mem_subdirectories.mpr there) front later e (stops_cons.mp stops)

variable {s : Search}

theorem visited_eq (level : s.level directory + depth = s.depth) :
    s.visited directory (t.listing directory p) =
      if depth = 0 then [] else (scriptsIn t s.suffix directory p).map (Path.ofString directory).child := by
  have scripts : ((t.names p).filter fun name => !t.isListedDirectory directory p name).filter
      (endsWith · s.suffix) = scriptsIn t s.suffix directory p := by
    rw [List.filter_filter, scriptsIn]
    exact List.filter_congr fun name _ => Bool.and_comm _ _
  unfold Search.visited FileTree.listing
  dsimp only
  rw [scripts]
  by_cases last : depth = 0
  · rw [if_neg (by omega), if_pos last]
  · rw [if_pos (by omega), if_neg last]

theorem entered_eq (level : s.level directory + depth = s.depth) (listing : FileTree.Listing) :
    s.entered directory listing = if depth ≤ 1 then [] else listing.directories := by
  unfold Search.entered
  by_cases last : depth ≤ 1
  · rw [if_pos (by omega), if_pos last]
  · rw [if_neg (by omega), if_neg last]

theorem below_of_overlong (plain : '\x00' ∉ directory.toList) (nonempty : directory ≠ "")
    (long : IsOverlong directory) :
    s.below t room directory = .error (.file (.refused .nameTooLong directory)) := by
  refine Search.below_refused ?_ room
  unfold IsOverlong at long
  unfold FileTree.list FileTree.locate FileTree.resolve
  rw [if_neg (by simpa using plain), if_neg nonempty, if_pos long]

theorem scriptPaths_succ (sound : t.IsSound) (nonempty : directory ≠ "") :
    scriptPaths t s.suffix (depth + 1) directory p =
      (scriptsIn t s.suffix directory p).map (Path.ofString directory).child ++
        (t.subdirectories p).flatMap fun name =>
          scriptPaths t s.suffix depth (inside directory name) (p ++ [name]) := by
  unfold scriptPaths
  rw [scriptsBelow, List.map_append, List.map_map, List.map_flatMap]
  congr 1
  · exact List.map_congr_left fun name listed =>
      (child_eq_resolve _ (isFileName_of_mem_names sound (List.mem_filter.mp listed).1)).symm
  · refine List.flatMap_congr fun name listed => ?_
    have named := isFileName_of_mem_names sound (List.mem_filter.mp listed).1
    simp only [List.map_map, Function.comp_def, resolve_inside nonempty named]

theorem below_last {listing : FileTree.Listing} (listed : t.list directory = .ok listing)
    (last : s.entered directory listing = []) :
    s.below t room directory = .ok (s.visited directory listing) := by
  cases room with
  | zero =>
    rw [Search.below_zero_of_list listed, last]
    rfl
  | succ room =>
    rw [Search.below_succ_of_list listed, last]
    show Except.ok (s.visited directory listing ++ []) = _
    rw [List.append_nil]

theorem scriptPaths_last (sound : t.IsSound) (nonempty : directory ≠ "")
    (last : depth ≤ 1 ∨ ∀ name ∈ t.names p, t.isListedDirectory directory p name = false) :
    scriptPaths t s.suffix depth directory p =
      if depth = 0 then [] else (scriptsIn t s.suffix directory p).map (Path.ofString directory).child := by
  cases depth with
  | zero => rfl
  | succ depth =>
    rw [if_neg (Nat.succ_ne_zero depth), scriptPaths_succ sound nonempty, List.append_right_eq_self]
    refine List.flatMap_eq_nil_iff.mpr fun name listed => ?_
    rcases last with less | nothing
    · obtain rfl : depth = 0 := by omega
      rfl
    · have unlisted := nothing name (List.mem_filter.mp listed).1
      rw [isListedDirectory_of_directory (FileTree.mem_subdirectories.mp listed)] at unlisted
      cases unlisted

theorem ends_of_last (sound : t.IsSound) (nonempty : directory ≠ "")
    (listed : t.list directory = .ok (t.listing directory p)) (short : ¬ IsOverlong directory)
    (level : s.level directory + depth = s.depth)
    (last : depth ≤ 1 ∨ ∀ name ∈ t.names p, t.isListedDirectory directory p name = false) :
    s.Ends t room depth directory p (s.below t room directory) := by
  have none : s.entered directory (t.listing directory p) = [] := by
    rw [entered_eq level]
    rcases last with less | nothing
    · rw [if_pos less]
    · rw [FileTree.listing, List.filter_eq_nil_iff.mpr (by simpa using nothing), ite_self]
  refine .inl ⟨isSearchable_of_last short last, ?_⟩
  rw [below_last listed none, visited_eq level, scriptPaths_last sound nonempty last]

theorem ends_of_full (listed : t.list directory = .ok (t.listing directory p))
    (level : s.level directory + depth = s.depth) (further : 1 < depth) (member : name ∈ t.names p)
    (directories : t.isListedDirectory directory p name = true) :
    s.Ends t 0 depth directory p (s.below t 0 directory) := by
  have some : s.entered directory (t.listing directory p) ≠ [] := by
    rw [entered_eq level, if_neg (Nat.not_le_of_lt further)]
    exact List.ne_nil_of_mem (List.mem_filter.mpr ⟨member, directories⟩)
  refine .inr ⟨[], _, isSearched_nil, .tooNested rfl (by simpa using further) (by simpa using member)
    (by simpa [walked] using directories), ?_⟩
  rw [Search.below_zero_of_list listed, if_neg (mt List.isEmpty_iff.mp some)]

/-- The search in a directory inside, told of the directory that it is in. -/
theorem ends_inside (further : depth ≠ 0) (there : t.get? (p ++ [name]) = some .directory)
    {ending : Except Failure (List Path)} (ends : s.Ends t room depth (inside directory name) (p ++ [name]) ending) :
    IsSearchable t room depth (inside directory name) (p ++ [name]) ∧
        ending = .ok (scriptPaths t s.suffix depth (inside directory name) (p ++ [name])) ∨
      ∃ e, (∃ front, IsSearched t (depth + 1) p (name :: front) ∧
        Stops t (room + 1) (depth + 1) directory p (name :: front) e) ∧ ending = .error e := by
  rcases ends with found | ⟨front, e, searched, stops, failed⟩
  · exact .inl found
  · exact .inr ⟨e, ⟨front, isSearched_cons.mpr ⟨further, there, searched⟩, stops_cons.mpr stops⟩, failed⟩

theorem ends_succ (sound : t.IsSound) (reaches : t.Reaches directory p) (nonempty : directory ≠ "")
    (listed : t.list directory = .ok (t.listing directory p)) (short : ¬ IsOverlong directory)
    (level : s.level directory + (depth + 1 : Nat) = s.depth) (further : depth ≠ 0)
    (each : ∀ name ∈ t.subdirectories p, s.Ends t room depth (inside directory name) (p ++ [name])
      (s.below t room (inside directory name))) :
    s.Ends t (room + 1) (depth + 1) directory p (s.below t (room + 1) directory) := by
  -- What is listed as a directory and is no link is one.
  have entered : (s.entered directory (t.listing directory p)).filter
      (fun name => !t.isLink (inside directory name)) = t.subdirectories p := by
    rw [entered_eq level, if_neg (by omega), FileTree.listing, List.filter_filter, FileTree.subdirectories]
    refine List.filter_congr fun name _ => ?_
    rw [Bool.and_comm, reaches.isListedDirectory_and_not_isLink sound nonempty]
  rw [Search.below_succ_of_list listed, entered]
  rcases mapM_ok_or_error fun name member =>
      ends_inside further (FileTree.mem_subdirectories.mp member) (each name member) with
    ⟨fits, done⟩ | ⟨name, -, e, ⟨front, searched, stops⟩, failed⟩
  · refine .inl ⟨isSearchable_succ short fits, ?_⟩
    rw [done, scriptPaths_succ sound nonempty, List.flatMap_def]
    show Except.ok (s.visited _ _ ++ _) = _
    rw [visited_eq level, if_neg (Nat.succ_ne_zero depth)]
  · refine .inr ⟨name :: front, e, searched, stops, ?_⟩
    rw [failed]
    rfl

theorem ends_or_enters (room : Nat) (sound : t.IsSound) (reaches : t.Reaches directory p)
    (nonempty : directory ≠ "") (plain : '\x00' ∉ directory.toList)
    (level : s.level directory + depth = s.depth) :
    s.Ends t room depth directory p (s.below t room directory) ∨
      ¬ IsOverlong directory ∧ t.list directory = .ok (t.listing directory p) ∧ 1 < depth ∧
        ∃ name ∈ t.names p, t.isListedDirectory directory p name = true := by
  by_cases long : IsOverlong directory
  · exact .inl (.inr ⟨[], _, isSearched_nil, .overlong long, below_of_overlong plain nonempty long⟩)
  have listed := reaches.list_eq ⟨plain, nonempty, Nat.le_of_not_lt long⟩
  by_cases last : depth ≤ 1 ∨ ∀ name ∈ t.names p, t.isListedDirectory directory p name = false
  · exact .inl (ends_of_last sound nonempty listed long level last)
  · obtain ⟨further, some⟩ := not_or.mp last
    exact .inr ⟨long, listed, Nat.lt_of_not_le further, by simpa using some⟩

/-- By induction on the room that is left. What is left of the depth is how far the directory may still be
gone down from. -/
theorem below_ends (room : Nat) (sound : t.IsSound) (reaches : t.Reaches directory p)
    (nonempty : directory ≠ "") (plain : '\x00' ∉ directory.toList)
    (level : s.level directory + depth = s.depth) :
    s.Ends t room depth directory p (s.below t room directory) := by
  induction room generalizing directory p depth with
  | zero =>
    rcases ends_or_enters 0 sound reaches nonempty plain level with
      ends | ⟨-, listed, further, name, member, directories⟩
    · exact ends
    · exact ends_of_full listed level further member directories
  | succ room ih =>
    rcases ends_or_enters (room + 1) sound reaches nonempty plain level with
      ends | ⟨short, listed, further, -⟩
    · exact ends
    obtain ⟨depth, rfl⟩ := Nat.exists_eq_add_one_of_ne_zero (Nat.ne_zero_of_lt further)
    refine ends_succ sound reaches nonempty listed short level (by omega) fun name member => ?_
    have there := FileTree.mem_subdirectories.mp member
    have named := isFileName_of_mem_names sound (List.mem_filter.mp member).1
    have deeper : s.level (inside directory name) + depth = s.depth := by
      rw [Search.level_inside s nonempty named]
      omega
    exact ih (reaches.inside nonempty sound there) (inside_ne_empty nonempty) (noNull_inside plain named) deeper

end

namespace Search

variable {s : Search} {t : FileTree} {p : Place}

theorem find_cases (sound : t.IsSound) (normal : s.root.IsNormal)
    (located : t.locate true s.root.text = .ok (.found p .directory)) :
    IsSearchable t t.platform.room s.depth s.root.text p ∧ s.find t = .ok
        ((scriptsBelow t s.suffix s.depth s.root.text p).map fun names => s.root.resolve ⟨.here, names⟩) ∨
    ∃ front e, IsSearched t s.depth p front ∧ Stops t t.platform.room s.depth s.root.text p front e ∧
      s.find t = .error e := by
  have usable := (FileTree.locate_eq_ok_iff.mp located).1
  have level : s.level s.root.text + s.depth = s.depth := by rw [level_root normal, Int.zero_add]
  have ends := below_ends t.platform.room sound (.of_locate located) usable.nonempty usable.noNull level
  rw [Search.Ends, scriptPaths, Path.ofString_text normal] at ends
  rw [find_eq]
  exact ends

theorem isSearchable_of_find {sources : List Path} (sound : t.IsSound) (normal : s.root.IsNormal)
    (located : t.locate true s.root.text = .ok (.found p .directory)) (found : s.find t = .ok sources) :
    IsSearchable t t.platform.room s.depth s.root.text p := by
  rcases find_cases sound normal located with ⟨fits, -⟩ | ⟨front, e, -, -, failed⟩
  · exact fits
  · exact nomatch found.symm.trans failed

/-- What a search finds from any directory: the scripts that are not too deep, each once, in the order
of a walk; a search that goes less deep finds those that are not deeper. Where it comes to a directory
whose path is too long, or that is nested too deep, it is refused there. -/
theorem find_exact (sound : t.IsSound) (normal : s.root.IsNormal)
    (located : t.locate true s.root.text = .ok (.found p .directory)) :
    let path (names : List String) := s.root.resolve ⟨.here, names⟩
    (IsSearchable t t.platform.room s.depth s.root.text p →
      ∃ found : List (List String), s.find t = .ok (found.map path) ∧
      (∀ names, names ∈ found ↔ IsScript t s.suffix s.root.text p names ∧ names.length ≤ s.depth) ∧
      (found.map path).Nodup ∧ found.Pairwise (Before t p) ∧
      ∀ depth ≤ s.depth, { s with depth }.find t =
        .ok ((found.filter fun names => names.length ≤ depth).map path)) ∧
    (¬ IsSearchable t t.platform.room s.depth s.root.text p →
      ∃ front e, IsSearched t s.depth p front ∧
        Stops t t.platform.room s.depth s.root.text p front e ∧ s.find t = .error e) := by
  intro path
  constructor
  · intro fits
    -- A search that goes less deep comes to fewer directories, so none of them stops it.
    have done {depth : Nat} (le : depth ≤ s.depth) : { s with depth }.find t =
        .ok ((scriptsBelow t s.suffix depth s.root.text p).map path) := by
      rcases find_cases (s := { s with depth }) sound normal located with
        ⟨-, done⟩ | ⟨front, e, searched, stops, -⟩
      · exact done
      · exact absurd stops (fits.mono le front searched e)
    refine ⟨scriptsBelow t s.suffix s.depth s.root.text p, done (Nat.le_refl _), fun _ => mem_scriptsBelow, ?_,
      pairwise_scriptsBelow, fun depth le => ?_⟩
    · refine (nodup_scriptsBelow sound).map fun one two same => ?_
      simpa [path, Path.parts_resolve_of_relative] using same
    · rw [filter_scriptsBelow le]
      exact done le
  · intro unfit
    rcases find_cases sound normal located with ⟨fits, -⟩ | stopped
    · exact absurd fits unfit
    · exact stopped

end Search

def linkedTree : FileTree :=
  ⟨[(["in"], .directory), (["in", "a.plugin.py"], .file []), (["in", "d"], .directory),
    (["in", "d", "b.plugin.py"], .file []), (["in", "d", "c.plugin.py"], .link "nowhere"),
    (["in", "d", "e"], .directory), (["in", "d", "e", "f.plugin.py"], .file []),
    (["in", "l.plugin.py"], .link "d"), (["in", "m.plugin.py"], .link "a.plugin.py"),
    (["top"], .link "in")], [], .plain⟩

/-- A search from a link, two directories deep. -/
def linkedSearch : Search := ⟨Path.ofString "in/../top/.", ".plugin.py", 2⟩

theorem linkedSearch_found :
    linkedTree.IsSound ∧ linkedSearch.find linkedTree = .ok (["in/../top/a.plugin.py",
      "in/../top/m.plugin.py", "in/../top/d/b.plugin.py", "in/../top/d/c.plugin.py"].map Path.ofString) ∧
    ∃ found : List (List String), found.Pairwise (Before linkedTree ["in"]) ∧
      (∀ names, names ∈ found ↔
        IsScript linkedTree ".plugin.py" "in/../top" ["in"] names ∧ names.length ≤ 2) ∧
      found.length = 4 := by
  have sound : linkedTree.IsSound := by decide +kernel
  have located : linkedTree.locate true linkedSearch.root.text = .ok (.found ["in"] .directory) := by
    rfl
  have done : linkedSearch.find linkedTree = .ok (["in/../top/a.plugin.py",
      "in/../top/m.plugin.py", "in/../top/d/b.plugin.py", "in/../top/d/c.plugin.py"].map Path.ofString) := by
    decide +kernel
  obtain ⟨found, finds, scripts, -, order, -⟩ := (Search.find_exact sound (Path.isNormal_ofString _) located).1
    (Search.isSearchable_of_find sound (Path.isNormal_ofString _) located done)
  refine ⟨sound, done, found, order, scripts, ?_⟩
  have same := congrArg List.length (Except.ok.inj (finds.symm.trans done))
  simpa using same

/-- A path that goes into a directory and out again, so many times. -/
def windingPath (turns : Nat) : Path := ⟨.here, (List.replicate turns ["a", ".."]).flatten ++ ["a"]⟩

section
variable {turns : Nat}

theorem mem_windingPath {part : String} (listed : part ∈ (windingPath turns).parts) :
    part = "a" ∨ part = ".." := by
  simp only [windingPath, List.mem_append, List.mem_flatten, List.mem_replicate,
    List.mem_singleton] at listed
  rcases listed with ⟨turn, ⟨-, rfl⟩, inside⟩ | rfl
  · simpa using inside
  · exact .inl rfl

theorem windingPath_isNormal : (windingPath turns).IsNormal := by
  intro part listed
  rcases mem_windingPath listed with rfl | rfl
  · exact ⟨by decide, by decide⟩
  · exact ⟨by decide, by decide⟩

theorem utf8ByteSize_windingPath : (windingPath turns).text.utf8ByteSize = 5 * turns + 1 := by
  have joined : (join "/" ((List.replicate turns ["a", ".."]).flatten ++ ["a"])).utf8ByteSize =
      5 * turns + 1 := by
    induction turns with
    | zero => rfl
    | succ turns ih =>
      have turn : ("a" ++ "/" ++ ".." ++ "/" : String).utf8ByteSize = 5 := by rfl
      rw [List.replicate_succ, List.flatten_cons, List.append_assoc,
        join_append "/" (List.cons_ne_nil _ _) (by simp), String.utf8ByteSize_append, ih]
      show ("a" ++ "/" ++ ".." ++ "/" : String).utf8ByteSize + _ = _
      rw [turn]
      omega
  simpa [windingPath, Path.text, Anchor.text] using joined

def windingTree : FileTree :=
  ⟨[(["a"], .directory), (["a", "bbbbb"], .directory), (["a", "bbbbb", "x.plugin.py"], .file [])], [], .plain⟩

theorem windingTree_way (turns links : Nat) (ends : Bool) : Way windingTree true links []
    (windingPath turns).parts ends (.found ["a"] .directory) := by
  have a : IsLookedUp "a" := ⟨by decide, by decide⟩
  unfold windingPath
  induction turns with
  | zero => exact .directory a rfl .here
  | succ turns ih =>
    rw [List.replicate_succ, List.flatten_cons, List.append_assoc]
    exact .directory a rfl (.above ih)

def windingSearch (turns : Nat) : Search := ⟨windingPath turns, ".plugin.py", 1024⟩

theorem windingSearch_root (short : 5 * turns + 1 ≤ maxPathLength) :
    windingTree.locate true (windingSearch turns).root.text = .ok (.found ["a"] .directory) := by
  have normal : (windingPath turns).IsNormal := windingPath_isNormal
  have plain : '\x00' ∉ (windingPath turns).text.toList := by
    intro inside
    rcases Path.mem_text inside with dot | slash | ⟨part, listed, holds⟩
    · exact absurd dot (by decide)
    · exact absurd slash (by decide)
    · rcases mem_windingPath listed with rfl | rfl
      · exact absurd holds (by decide)
      · exact absurd holds (by decide)
  refine FileTree.locate_eq_ok_iff.mpr ⟨⟨plain, Path.text_ne_empty normal, ?_⟩, ?_⟩
  · exact utf8ByteSize_windingPath.trans_le short
  · rw [windingSearch, Path.route_text normal, FileTree.origin, Path.startsWith_text normal]
    exact windingTree_way turns _ _

theorem windingSearch_refused (short : 5 * turns + 1 ≤ maxPathLength)
    (long : maxPathLength < 5 * turns + 6) (found : List Path) :
    (windingSearch turns).find windingTree ≠ .ok found := by
  intro done
  have sound : windingTree.IsSound := by decide +kernel
  have fits := Search.isSearchable_of_find sound windingPath_isNormal (windingSearch_root short) done
  refine fits ["bbbbb"] ⟨.inside rfl .here, .inr (by decide : 1 < 1024)⟩ _ (.overlong ?_)
  have longer := utf8ByteSize_inside (windingPath turns).text "bbbbb"
  have five : ("bbbbb" : String).utf8ByteSize = 5 := by rfl
  rw [utf8ByteSize_windingPath, five] at longer
  exact Nat.lt_of_lt_of_le long longer

end

/-- A search from a path that is nearly too long: the directory inside cannot be listed. -/
theorem winding_search_incomplete :
    windingTree.IsSound ∧
      windingTree.locate true (windingSearch 818).root.text = .ok (.found ["a"] .directory) ∧
      IsScript windingTree ".plugin.py" (windingSearch 818).root.text ["a"] ["bbbbb", "x.plugin.py"] ∧
      ∀ found, (windingSearch 818).find windingTree ≠ .ok found := by
  refine ⟨by decide +kernel, windingSearch_root (by decide), ?_, windingSearch_refused (by decide) (by decide)⟩
  have there : windingTree.get? ["a", "bbbbb", "x.plugin.py"] = some (.file []) := rfl
  exact .inside rfl (.file there nofun nofun (by decide))

end PluginBuild
