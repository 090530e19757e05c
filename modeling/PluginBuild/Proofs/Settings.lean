import PluginBuild.Proofs.Json.Records
import PluginBuild.Proofs.Tasks
import PluginBuild.Settings

/-!
Where the values of settings come from. A value is the last one given, else the one of the file, else the
default, and settings exist only if every value fits. Each way of making settings checks the same four
values, and what a check returns has these values as its members; everything else follows from that.
-/

namespace PluginBuild

open PluginBuild.Files PluginBuild.Json PluginBuild.Text

/-- Why values are no settings. The other errors are about files and about names that no setting has. -/
inductive SettingsError.IsRefusal : SettingsError → Prop
  | unknown (names : List String) : IsRefusal (.unknown names)
  | suffix : IsRefusal .badSuffix
  | depthNotInteger : IsRefusal .depthNotInteger
  | depthNegative : IsRefusal .depthNegative
  | template : IsRefusal .badTemplate
  | logLevel : IsRefusal .badLogLevel

namespace Settings

/-- Values that are given for settings. -/
structure IsCall (values : Members) : Prop where
  record : IsRecord values
  known : ∀ name ∈ values.map (·.1), name ∈ names

/-- The values that the setting of a name may have. -/
inductive Fits (name : String) : Value → Prop
  | suffix {s : String} (named : name = "script_suffix") (nonempty : s ≠ "") : Fits name (.string s)
  | depth {n : Int} (named : name = "max_search_depth") (nonnegative : 0 ≤ n) : Fits name (.int n)
  | template {s : String} (named : name = "script_template") (colon : ':' ∈ s.toList) : Fits name (.string s)
  | logLevel {s : String} (named : name = "log_level")
    (level : upperText s ∈ LogLevel.all.map LogLevel.name) : Fits name (.string s)

/-- Settings in which every value may be what it is. -/
def IsValid (s : Settings) : Prop := ∀ m ∈ s.members, Fits m.1 m.2

def updated (values others : Members) : Members :=
  (given others).foldl (fun values m => insertMember m.1 m.2 values) values

def lastGiven (calls : List Members) (name : String) : Option Value :=
  calls.reverse.findSome? fun values => (given values).lookup name

/-- The settings that the members of a file give, with calls that override them one after the other. -/
def resolve (members : Members) (calls : List Members) : Except SettingsError Settings := do
  calls.foldlM override (← ofMembers members)

/-- A check of what is given for a name: it returns what fits, and refuses everything else. -/
structure Checks {α : Type} (name : String) (shown : α → Value)
    (check : Value → Except SettingsError α) : Prop where
  fits : ∀ {value a}, check value = .ok a → shown a = value ∧ Fits name value
  accepts : ∀ {value}, Fits name value → ∃ a, check value = .ok a
  refuses : ∀ {value e}, check value = .error e → e.IsRefusal

theorem textOf_checks {name : String} {accepts : String → Bool} {refusal : SettingsError}
    (agrees : ∀ value, Fits name value ↔ ∃ s, value = .string s ∧ accepts s = true)
    (refuses : refusal.IsRefusal) : Checks name .string (textOf accepts refusal) := by
  constructor
  · intro value s done
    unfold textOf at done
    repeat' split at done
    all_goals cases done
    rename_i accepted
    exact ⟨rfl, (agrees _).mpr ⟨s, rfl, accepted⟩⟩
  · intro value fits
    obtain ⟨s, rfl, accepted⟩ := (agrees value).mp fits
    exact ⟨s, if_pos accepted⟩
  · intro value e failed
    unfold textOf at failed
    repeat' split at failed
    all_goals cases failed
    all_goals exact refuses

theorem suffix_checks : Checks "script_suffix" .string (textOf (· != "") .badSuffix) := by
  refine textOf_checks (fun value => ⟨fun fits => ?_, ?_⟩) .suffix
  · cases fits with
    | suffix named nonempty => exact ⟨_, rfl, bne_iff_ne.mpr nonempty⟩
    | depth named | template named | logLevel named => exact absurd named (by decide)
  · rintro ⟨s, rfl, nonempty⟩
    exact .suffix rfl (bne_iff_ne.mp nonempty)

theorem template_checks : Checks "script_template" .string (textOf (·.toList.contains ':') .badTemplate) := by
  refine textOf_checks (fun value => ⟨fun fits => ?_, ?_⟩) .template
  · cases fits with
    | template named colon => exact ⟨_, rfl, List.contains_iff_mem.mpr colon⟩
    | suffix named | depth named | logLevel named => exact absurd named (by decide)
  · rintro ⟨s, rfl, colon⟩
    exact .template rfl (List.contains_iff_mem.mp colon)

theorem isSome_levelOf?_iff {s : String} :
    (levelOf? s).isSome ↔ upperText s ∈ LogLevel.all.map LogLevel.name := by
  simp [levelOf?, LogLevel.ofName?, List.find?_isSome]

theorem logLevel_checks : Checks "log_level" .string (textOf (fun s => (levelOf? s).isSome) .badLogLevel) := by
  refine textOf_checks (fun value => ⟨fun fits => ?_, ?_⟩) .logLevel
  · cases fits with
    | logLevel named level => exact ⟨_, rfl, isSome_levelOf?_iff.mpr level⟩
    | suffix named | depth named | template named => exact absurd named (by decide)
  · rintro ⟨s, rfl, level⟩
    exact .logLevel rfl (isSome_levelOf?_iff.mp level)

theorem depth_checks : Checks "max_search_depth" (fun n : Nat => .int n) depthOf := by
  constructor
  · intro value n done
    unfold depthOf at done
    repeat' split at done
    all_goals cases done
    rename_i n nonnegative
    rw [Int.toNat_of_nonneg (Int.not_lt.mp nonnegative)]
    exact ⟨rfl, .depth rfl (Int.not_lt.mp nonnegative)⟩
  · intro value fits
    cases fits with
    | depth named nonnegative => exact ⟨_, if_neg (Int.not_lt.mpr nonnegative)⟩
    | suffix named | template named | logLevel named => exact absurd named (by decide)
  · intro value e failed
    unfold depthOf at failed
    repeat' split at failed
    all_goals cases failed
    · exact .depthNegative
    · exact .depthNotInteger

section
variable {suffix depth template logLevel : Value}

theorem check_ok {s : Settings} (done : check suffix depth template logLevel = .ok s) :
    s.IsValid ∧ s.members = [("script_suffix", suffix), ("max_search_depth", depth),
      ("script_template", template), ("log_level", logLevel)] := by
  unfold check at done
  obtain ⟨first, checked₁, done⟩ := bind_ok done
  obtain ⟨second, checked₂, done⟩ := bind_ok done
  obtain ⟨third, checked₃, done⟩ := bind_ok done
  obtain ⟨last, checked₄, done⟩ := bind_ok done
  cases done
  obtain ⟨rfl, fits₁⟩ := suffix_checks.fits checked₁
  obtain ⟨rfl, fits₂⟩ := depth_checks.fits checked₂
  obtain ⟨rfl, fits₃⟩ := template_checks.fits checked₃
  obtain ⟨rfl, fits₄⟩ := logLevel_checks.fits checked₄
  refine ⟨?_, rfl⟩
  simp only [IsValid, members, List.forall_mem_cons]
  exact ⟨fits₁, fits₂, fits₃, fits₄, List.forall_mem_nil _⟩

theorem check_of_fits (fits₁ : Fits "script_suffix" suffix) (fits₂ : Fits "max_search_depth" depth)
    (fits₃ : Fits "script_template" template) (fits₄ : Fits "log_level" logLevel) :
    ∃ s, check suffix depth template logLevel = .ok s := by
  obtain ⟨first, checked₁⟩ := suffix_checks.accepts fits₁
  obtain ⟨second, checked₂⟩ := depth_checks.accepts fits₂
  obtain ⟨third, checked₃⟩ := template_checks.accepts fits₃
  obtain ⟨last, checked₄⟩ := logLevel_checks.accepts fits₄
  refine ⟨⟨first, second, third, last⟩, ?_⟩
  rw [check, checked₁, checked₂, checked₃, checked₄]
  rfl

theorem bind_error {ε α β : Type} {first : Except ε α} {next : α → Except ε β} {e : ε}
    (failed : first >>= next = .error e) : first = .error e ∨ ∃ a, first = .ok a ∧ next a = .error e := by
  cases first with
  | error e' =>
    cases failed
    exact .inl rfl
  | ok a => exact .inr ⟨a, rfl, failed⟩

theorem check_error {e : SettingsError} (failed : check suffix depth template logLevel = .error e) :
    e.IsRefusal := by
  unfold check at failed
  rcases bind_error failed with failed | ⟨first, -, failed⟩
  · exact suffix_checks.refuses failed
  rcases bind_error failed with failed | ⟨second, -, failed⟩
  · exact depth_checks.refuses failed
  rcases bind_error failed with failed | ⟨third, -, failed⟩
  · exact template_checks.refuses failed
  rcases bind_error failed with failed | ⟨last, -, failed⟩
  · exact logLevel_checks.refuses failed
  · cases failed

end

section
variable {s t : Settings} {changes : Members}

def wanted (s : Settings) (changes : Members) (name : String) : Option Value :=
  (changes.lookup name).or (s.members.lookup name)

theorem change_eq (s : Settings) (changes : Members) : s.change changes =
    check ((s.wanted changes "script_suffix").getD .null) ((s.wanted changes "max_search_depth").getD .null)
      ((s.wanted changes "script_template").getD .null) ((s.wanted changes "log_level").getD .null) := by
  simp only [change, wanted, Option.orElse_eq_or]

theorem exists_wanted (s : Settings) (changes : Members) {name : String} (known : name ∈ names) :
    ∃ value, s.wanted changes name = some value := by
  have stored : ∃ value, s.members.lookup name = some value := by
    simp only [names, List.mem_cons, List.not_mem_nil, or_false] at known
    rcases known with rfl | rfl | rfl | rfl
    all_goals exact ⟨_, rfl⟩
  obtain ⟨value, stored⟩ := stored
  rw [wanted, stored]
  cases changes.lookup name with
  | none => exact ⟨value, rfl⟩
  | some v => exact ⟨v, rfl⟩

theorem change_ok (done : s.change changes = .ok t) :
    t.IsValid ∧ ∀ name ∈ names, t.members.lookup name = s.wanted changes name := by
  rw [change_eq] at done
  obtain ⟨valid, members⟩ := check_ok done
  refine ⟨valid, fun name known => ?_⟩
  obtain ⟨value, wanted⟩ := exists_wanted s changes known
  simp only [names, List.mem_cons, List.not_mem_nil, or_false] at known
  rw [members]
  rcases known with rfl | rfl | rfl | rfl
  all_goals
    rw [wanted]
    rfl

theorem change_of_fits
    (fits : ∀ name ∈ names, ∀ value, s.wanted changes name = some value → Fits name value) :
    ∃ t, s.change changes = .ok t := by
  have each {name : String} (known : name ∈ names) : Fits name ((s.wanted changes name).getD .null) := by
    obtain ⟨value, wanted⟩ := exists_wanted s changes known
    rw [wanted]
    exact fits name known value wanted
  rw [change_eq]
  exact check_of_fits (each (by decide)) (each (by decide)) (each (by decide)) (each (by decide))

theorem change_error {e : SettingsError} (failed : s.change changes = .error e) : e.IsRefusal := by
  rw [change_eq] at failed
  exact check_error failed

theorem change_congr {s' : Settings} {changes' : Members}
    (same : ∀ name ∈ names, s.wanted changes name = s'.wanted changes' name) :
    s.change changes = s'.change changes' := by
  rw [change_eq, change_eq, same _ (by decide), same _ (by decide), same _ (by decide), same _ (by decide)]

theorem exists_change_iff (valid : s.IsValid) (record : IsRecord changes)
    (known : ∀ name ∈ changes.map (·.1), name ∈ names) :
    (∃ t, s.change changes = .ok t) ↔ ∀ m ∈ changes, Fits m.1 m.2 := by
  constructor
  · rintro ⟨t, done⟩ m member
    obtain ⟨valid', found⟩ := change_ok done
    have wanted := found m.1 (known _ (List.mem_map_of_mem member))
    rw [Settings.wanted, lookup_of_mem record member, Option.some_or] at wanted
    exact valid' _ (mem_of_lookup wanted)
  · intro fits
    refine change_of_fits fun name known value wanted => ?_
    rw [Settings.wanted, Option.or_eq_some_iff] at wanted
    rcases wanted with here | ⟨-, before⟩
    · exact fits _ (mem_of_lookup here)
    · exact valid _ (mem_of_lookup before)

end

theorem default_isValid : default.IsValid := by
  simp only [IsValid, members, default, List.forall_mem_cons]
  exact ⟨.suffix rfl (by decide), .depth rfl (Int.natCast_nonneg _), .template rfl (by decide),
    .logLevel rfl (by decide), List.forall_mem_nil _⟩

theorem level_of_isValid {s : Settings} (valid : s.IsValid) : levelOf? s.logLevel = some s.level := by
  have fits : Fits "log_level" (.string s.logLevel) := valid ("log_level", _) (by simp [members])
  obtain ⟨level, named⟩ : ∃ level, levelOf? s.logLevel = some level := by
    refine Option.isSome_iff_exists.mp (isSome_levelOf?_iff.mpr ?_)
    cases fits with
    | logLevel named level => exact level
    | suffix named | template named => exact absurd named (by decide)
  rw [Settings.level, named]
  rfl

section
variable {data : Members}

theorem ofMembers_cases (data : Members) :
    (∀ name ∈ data.map (·.1), name ∈ names) ∧ ofMembers data = default.change data ∨
      ∃ name ∈ data.map (·.1), name ∉ names ∧ ∃ found, ofMembers data = .error (.unknown found) := by
  unfold ofMembers
  dsimp only
  cases unknown : (data.map (·.1)).filter (!names.contains ·) with
  | nil =>
    refine .inl ⟨fun name member => ?_, rfl⟩
    simpa using List.filter_eq_nil_iff.mp unknown name member
  | cons name rest =>
    obtain ⟨member, absent⟩ := List.mem_filter.mp (unknown ▸ List.mem_cons_self : name ∈ List.filter _ _)
    exact .inr ⟨name, member, by simpa using absent, _, rfl⟩

theorem name_of_fits {name : String} {value : Value} (fits : Fits name value) : name ∈ names := by
  cases fits with
  | suffix named | depth named | template named | logLevel named =>
    rw [named]
    decide

theorem exists_ofMembers_iff (record : IsRecord data) :
    (∃ s, ofMembers data = .ok s) ↔ ∀ m ∈ data, Fits m.1 m.2 := by
  rcases ofMembers_cases data with ⟨known, same⟩ | ⟨name, member, unknown, found, refused⟩
  · rw [same]
    exact exists_change_iff default_isValid record known
  · constructor
    · rintro ⟨s, done⟩
      cases refused.symm.trans done
    · intro fits
      obtain ⟨m, inside, rfl⟩ := List.mem_map.mp member
      exact absurd (name_of_fits (fits m inside)) unknown

theorem ofMembers_ok {s : Settings} (done : ofMembers data = .ok s) :
    s.IsValid ∧ ∀ name ∈ names, s.members.lookup name = default.wanted data name := by
  rcases ofMembers_cases data with ⟨known, same⟩ | ⟨name, member, unknown, found, refused⟩
  · exact change_ok (same.symm.trans done)
  · cases refused.symm.trans done

theorem ofMembers_error {e : SettingsError} (failed : ofMembers data = .error e) : e.IsRefusal := by
  rcases ofMembers_cases data with ⟨known, same⟩ | ⟨name, member, unknown, found, refused⟩
  · exact change_error (same.symm.trans failed)
  · cases refused.symm.trans failed
    exact .unknown found

end

section
variable {s t : Settings} {values : Members}

theorem mem_given {m : String × Value} : m ∈ given values ↔ m ∈ values ∧ m.2.isNull = false := by
  simp [given]

theorem isRecord_given (record : IsRecord values) : IsRecord (given values) :=
  record.sublist (List.filter_sublist.map _)

theorem known_given (known : ∀ name ∈ values.map (·.1), name ∈ names) :
    ∀ name ∈ (given values).map (·.1), name ∈ names :=
  fun name member => known name ((List.filter_sublist.map _).mem member)

theorem override_eq (known : ∀ name ∈ values.map (·.1), name ∈ names) :
    s.override values = s.change (given values) := by
  unfold override
  dsimp only
  split
  · rename_i key value found
    have member := known_given known key (List.mem_map_of_mem (List.mem_of_find?_eq_some found))
    have unknown := List.find?_some found
    simp [member] at unknown
  · rfl

theorem isNull_eq_false_iff {value : Value} : value.isNull = false ↔ value ≠ .null := by
  cases value <;> simp [Value.isNull]

theorem exists_override_iff (valid : s.IsValid) (call : IsCall values) :
    (∃ t, s.override values = .ok t) ↔ ∀ m ∈ values, m.2 ≠ .null → Fits m.1 m.2 := by
  rw [override_eq call.known, exists_change_iff valid (isRecord_given call.record) (known_given call.known)]
  simp only [mem_given, isNull_eq_false_iff, and_imp]

theorem override_ok (call : IsCall values) (done : s.override values = .ok t) :
    t.IsValid ∧ ∀ name ∈ names, t.members.lookup name = s.wanted (given values) name := by
  rw [override_eq call.known] at done
  exact change_ok done

theorem override_error {e : SettingsError} (call : IsCall values) (failed : s.override values = .error e) :
    e.IsRefusal := by
  rw [override_eq call.known] at failed
  exact change_error failed

end

theorem lastGiven_cons (values : Members) (calls : List Members) (name : String) :
    lastGiven (values :: calls) name = (lastGiven calls name).or ((given values).lookup name) := by
  rw [lastGiven, List.reverse_cons, List.findSome?_append]
  congr 1
  cases found : (given values).lookup name <;> simp [found]

theorem lookup_of_chain {calls : List Members} (each : ∀ values ∈ calls, IsCall values) {s t : Settings}
    (valid : s.IsValid) (done : calls.foldlM override s = .ok t) : t.IsValid ∧
      ∀ name ∈ names, t.members.lookup name = (lastGiven calls name).or (s.members.lookup name) := by
  induction calls generalizing s with
  | nil =>
    cases done
    exact ⟨valid, fun _ _ => rfl⟩
  | cons values calls ih =>
    rw [List.forall_mem_cons] at each
    rw [List.foldlM_cons] at done
    obtain ⟨s₁, first, done⟩ := bind_ok done
    obtain ⟨valid₁, found⟩ := override_ok each.1 first
    obtain ⟨valid', later⟩ := ih each.2 valid₁ done
    refine ⟨valid', fun name known => ?_⟩
    rw [later name known, found name known, wanted, lastGiven_cons, Option.or_assoc]

theorem IsCall.insertMember {values : Members} {key : String} (call : IsCall values) (known : key ∈ names)
    (value : Value) : IsCall (insertMember key value values) := by
  refine ⟨call.record.insertMember key value, fun name member => ?_⟩
  rw [names_insertMember] at member
  split at member
  · exact call.known name member
  · rcases List.mem_append.mp member with before | last
    · exact call.known name before
    · rwa [List.mem_singleton.mp last]

theorem insertMembers {values others : Members} (call : IsCall values) (record : IsRecord others)
    (known : ∀ name ∈ others.map (·.1), name ∈ names) :
    IsCall (others.foldl (fun values m => insertMember m.1 m.2 values) values) ∧
    ∀ name, (others.foldl (fun values m => insertMember m.1 m.2 values) values).lookup name =
      (others.lookup name).or (values.lookup name) := by
  induction others generalizing values with
  | nil => exact ⟨call, fun _ => rfl⟩
  | cons m rest ih =>
    obtain ⟨key, value⟩ := m
    rw [IsRecord, List.map_cons, List.nodup_cons] at record
    rw [List.map_cons, List.forall_mem_cons] at known
    obtain ⟨call', found⟩ := ih (call.insertMember known.1 value) record.2 known.2
    refine ⟨call', fun name => ?_⟩
    rw [List.foldl_cons, found, lookup_insertMember, lookup_cons_eq]
    by_cases same : name = key
    · simp [same, lookup_of_absent record.1]
    · simp [same]

theorem isNull_of_lookup_given {values : Members} {name : String} {value : Value}
    (found : (given values).lookup name = some value) : value.isNull = false :=
  (mem_given.mp (mem_of_lookup found)).2

theorem lookup_given {values : Members} (record : IsRecord values) (name : String) :
    (given values).lookup name = (values.lookup name).filter (!·.isNull) := by
  induction values with
  | nil => rfl
  | cons m rest ih =>
    obtain ⟨key, value⟩ := m
    obtain ⟨absent, record⟩ := List.nodup_cons.mp record
    rw [lookup_cons_eq]
    by_cases null : value.isNull
    · -- A null is dropped, and no value of the same name comes after it.
      have dropped : given ((key, value) :: rest) = given rest := List.filter_cons_of_neg (by simp [null])
      rw [dropped, ih record]
      split
      · rename_i same
        rw [same, lookup_of_absent absent]
        simp [Option.filter, null]
      · rfl
    · have kept : given ((key, value) :: rest) = (key, value) :: given rest :=
        List.filter_cons_of_pos (by simp [null])
      rw [kept, lookup_cons_eq, ih record]
      split
      · simp [Option.filter, null]
      · rfl

theorem override_override {s s₁ s₂ : Settings} {a b : Members} (first : IsCall a) (second : IsCall b)
    (done : s.override a = .ok s₁) (done' : s₁.override b = .ok s₂) :
    s.override (updated a b) = .ok s₂ := by
  obtain ⟨call, found⟩ := insertMembers first (isRecord_given second.record) (known_given second.known)
  have both (name : String) : (given (updated a b)).lookup name =
      ((given b).lookup name).or ((given a).lookup name) := by
    rw [updated, lookup_given call.record, lookup_given first.record, found]
    cases later : (given b).lookup name with
    | none => rfl
    | some value => simp [isNull_of_lookup_given later]
  have known : ∀ name ∈ (updated a b).map (·.1), name ∈ names := call.known
  rw [override_eq known, ← done', override_eq second.known]
  refine change_congr fun name known => ?_
  rw [wanted, wanted, (override_ok first done).2 name known, wanted, both, Option.or_assoc]

theorem isRecord_of_membersOfFile {files : FileTree} {path : Path} {data : Members}
    (found : membersOfFile files path = .ok data) : IsRecord data := by
  unfold membersOfFile at found
  split at found
  · cases found
  unfold membersOfBytes at found
  split at found
  · cases found
  unfold membersOfText at found
  dsimp only at found
  split at found
  all_goals cases found
  rename_i parsed
  exact isRecord_of_parse parsed

theorem exists_load_iff {files : FileTree} {path : Path} {data : Members}
    (found : membersOfFile files path = .ok data) :
    ((∃ s, load files (some path) = .ok s) ↔ ∀ m ∈ data, Fits m.1 m.2) ∧
      ∀ s, load files (some path) = .ok s → s.IsValid := by
  have same : load files (some path) = ofMembers data := by
    rw [load, found]
    rfl
  rw [same]
  exact ⟨exists_ofMembers_iff (isRecord_of_membersOfFile found), fun s done => (ofMembers_ok done).1⟩

/-- Settings exist only if all values fit, and have the value given last, else that of the file, else the
default. A value of the file that does not fit is refused, whatever the calls give in its place. -/
theorem resolve_by_precedence {data : Members} {calls : List Members} (record : IsRecord data)
    (each : ∀ call ∈ calls, IsCall call) :
    ((∃ s, ofMembers data = .ok s) ↔ ∀ m ∈ data, Fits m.1 m.2) ∧
    (∀ e, ofMembers data = .error e → e.IsRefusal ∧ resolve data calls = .error e) ∧
    (∀ s : Settings, s.IsValid → ∀ call ∈ calls,
      ((∃ t, s.override call = .ok t) ↔ ∀ m ∈ call, m.2 ≠ .null → Fits m.1 m.2) ∧
      ∀ e, s.override call = .error e → e.IsRefusal) ∧
    (∀ t, resolve data calls = .ok t → t.IsValid ∧ levelOf? t.logLevel = some t.level ∧
      ∀ name ∈ names, t.members.lookup name =
        ((lastGiven calls name).or (data.lookup name)).or (default.members.lookup name)) ∧
    ∀ s s₁ s₂ : Settings, ∀ a ∈ calls, ∀ b ∈ calls, s.override a = .ok s₁ → s₁.override b = .ok s₂ →
      s.override (updated a b) = .ok s₂ := by
  refine ⟨exists_ofMembers_iff record, fun e failed => ⟨ofMembers_error failed, ?_⟩,
    fun s valid call member => ⟨exists_override_iff valid (each call member),
      fun e failed => override_error (each call member) failed⟩,
    fun t done => ?_,
    fun s s₁ s₂ a first b second done done' => override_override (each a first) (each b second) done done'⟩
  · rw [resolve, failed]
    rfl
  · obtain ⟨s, made, done⟩ := bind_ok done
    obtain ⟨valid, start⟩ := ofMembers_ok made
    obtain ⟨valid', found⟩ := lookup_of_chain each valid done
    refine ⟨valid', level_of_isValid valid', fun name known => ?_⟩
    rw [found name known, start name known, wanted, Option.or_assoc]

/-- The log level is read from a file, given twice and kept by a call that does not give it. -/
def sampleCalls : List Members :=
  [[("log_level", .string "info"), ("max_search_depth", .int 0)], [("log_level", .string "Warning")],
    [("log_level", .null)]]

def sampleData : Members := [("script_suffix", .string ".ps"), ("log_level", .string "debug")]

theorem sample_by_precedence : ∃ t, resolve sampleData sampleCalls = .ok t ∧ t.level = .warning ∧
    t.IsValid ∧ t.members.lookup "script_suffix" = some (.string ".ps") ∧
    t.members.lookup "script_template" = default.members.lookup "script_template" := by
  have record : IsRecord sampleData := by unfold IsRecord; decide
  have each : ∀ call ∈ sampleCalls, IsCall call := by
    simp only [sampleCalls, List.forall_mem_cons]
    refine ⟨⟨?_, ?_⟩, ⟨?_, ?_⟩, ⟨?_, ?_⟩, List.forall_mem_nil _⟩
    all_goals
      try unfold IsRecord
      decide
  obtain ⟨-, -, -, sources, -⟩ := resolve_by_precedence record each
  have done : resolve sampleData sampleCalls =
      .ok ⟨".ps", 0, "toolchain.template:PluginScript", "Warning"⟩ := by decide +kernel
  obtain ⟨valid, -, found⟩ := sources _ done
  refine ⟨_, done, by decide +kernel, valid, ?_, ?_⟩
  all_goals
    rw [found _ (by decide)]
    rfl

end Settings
end PluginBuild
