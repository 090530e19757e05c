import Mathlib.Data.List.Forall2
import PluginBuild.Proofs.Gathering
import PluginBuild.Script.Codecs

/-!
Which locations are entries of a classpath. A location is a path or text that names one, or it is refused,
or its host cannot be read. The entries of a classpath are in the order of what they stand for, with
nothing left out; the first location that is no entry decides how gathering them fails.
-/

namespace PluginBuild

open PluginBuild.Files PluginBuild.Text

namespace Location

/-- The path that a location names, seen from the current directory if it can be told. -/
inductive Names (here : Except FileError Place) : Location → Path → Prop
  | path (p : Path) : Names here (.path p) p
  | current {place : Place} (there : here = .ok place) : Names here (.text "") ⟨.root, place⟩
  | file {s : String} (given : s ≠ "") (readable : hostFault? (Url.parts s).host.toList = none)
    (scheme : (Url.parts s).scheme = "file") (host : (Url.parts s).host = "" ∨ (Url.parts s).host = "localhost") :
    Names here (.text s) (Path.ofString (unquotePercent (Url.parts s).path.toList))
  | plain {s : String} (given : s ≠ "") (readable : hostFault? (Url.parts s).host.toList = none)
    (scheme : (Url.parts s).scheme.length ≤ 1) : Names here (.text s) (Path.ofString s)

/-- Neither a path nor text, or text with a scheme that names no file, or a file of another host. -/
inductive IsForeign : Location → Prop
  | other (shown : String) : IsForeign (.other shown)
  | scheme {s : String} (readable : hostFault? (Url.parts s).host.toList = none)
    (long : 1 < (Url.parts s).scheme.length) (scheme : (Url.parts s).scheme ≠ "file") : IsForeign (.text s)
  | host {s : String} (readable : hostFault? (Url.parts s).host.toList = none)
    (scheme : (Url.parts s).scheme = "file") (host : (Url.parts s).host ≠ "")
    (elsewhere : (Url.parts s).host ≠ "localhost") : IsForeign (.text s)

/-- Text with a host that cannot be read. -/
inductive HasBrokenHost : Location → Prop
  | text {s : String} {e : ClasspathError} (fault : hostFault? (Url.parts s).host.toList = some e) :
    HasBrokenHost (.text s)

/-- The current directory where it cannot be told. -/
inductive IsLost (here : Except FileError Place) : Location → Prop
  | text {e : FileError} (gone : here = .error e) : IsLost here (.text "")

end Location

theorem kind_of_addressFault? {s : List Char} {e : ClasspathError} (fault : addressFault? s = some e) :
    e.kind = .host := by
  unfold addressFault? at fault
  repeat' split at fault
  all_goals cases fault
  all_goals rfl

theorem kind_of_bracketFault? {host : List Char} {e : ClasspathError}
    (fault : bracketFault? host = some e) : e.kind = .host := by
  unfold bracketFault? at fault
  dsimp only at fault
  repeat' split at fault
  · exact kind_of_addressFault? fault
  · cases fault
    rfl
  · exact kind_of_addressFault? fault

theorem kind_of_hostFault? {host : List Char} {e : ClasspathError} (fault : hostFault? host = some e) :
    e.kind = .host := by
  unfold hostFault? at fault
  split at fault
  · cases fault
    rfl
  · rw [Option.orElse_eq_or, Option.or_eq_some_iff] at fault
    rcases fault with inside | ⟨-, disguised⟩
    · split at inside
      · exact kind_of_bracketFault? inside
      · cases inside
    · split at disguised
      · cases disguised
        rfl
      · cases disguised

namespace Location

variable {here : Except FileError Place} {l : Location} {p : Path}

theorem toPath_text {s : String} (given : s ≠ "") : (text s).toPath here =
    Url.ofString s >>= Url.toPath s := if_neg given

theorem toPath_text_readable {s : String} (given : s ≠ "")
    (readable : hostFault? (Url.parts s).host.toList = none) :
    (text s).toPath here = (Url.parts s).toPath s := by
  rw [toPath_text given, Url.ofString, readable]
  rfl

theorem toPath_text_broken {s : String} {e : ClasspathError} (given : s ≠ "")
    (fault : hostFault? (Url.parts s).host.toList = some e) : (text s).toPath here = .error e := by
  rw [toPath_text given, Url.ofString, fault]
  rfl

theorem toPath_of_names (names : Names here l p) : l.toPath here = .ok p := by
  cases names with
  | path => rfl
  | current there => rw [there]; rfl
  | file given readable scheme host =>
    rw [toPath_text_readable given readable, Url.toPath, if_pos scheme, if_pos host]
  | plain given readable scheme =>
    have differ : (Url.parts _).scheme ≠ "file" := fun same => by
      rw [same] at scheme
      exact absurd scheme (by decide)
    rw [toPath_text_readable given readable, Url.toPath, if_neg differ, if_neg (Nat.not_lt.mpr scheme)]

theorem nonempty_of_scheme {s : String} (named : (Url.parts s).scheme ≠ "") : s ≠ "" := by
  rintro rfl
  exact named rfl

theorem toPath_of_isForeign (here : Except FileError Place) (foreign : l.IsForeign) :
    ∃ e : ClasspathError, e.kind = .refusal ∧ l.toPath here = .error e := by
  cases foreign with
  | other shown => exact ⟨.notAPath shown, rfl, rfl⟩
  | @scheme s readable long scheme =>
    have given : s ≠ "" := nonempty_of_scheme fun none => by
      rw [none] at long
      exact absurd long (by decide)
    refine ⟨.invalid s, rfl, ?_⟩
    rw [toPath_text_readable given readable, Url.toPath, if_neg scheme, if_pos long]
  | @host s readable scheme host elsewhere =>
    have given : s ≠ "" := nonempty_of_scheme fun none => by
      rw [none] at scheme
      exact absurd scheme (by decide)
    refine ⟨.invalid s, rfl, ?_⟩
    rw [toPath_text_readable given readable, Url.toPath, if_pos scheme, if_neg (not_or.mpr ⟨host, elsewhere⟩)]

theorem toPath_of_hasBrokenHost (here : Except FileError Place) (broken : l.HasBrokenHost) :
    ∃ e : ClasspathError, e.kind = .host ∧ l.toPath here = .error e := by
  cases broken with
  | @text s e fault =>
    have given : s ≠ "" := by
      rintro rfl
      cases fault
    exact ⟨e, kind_of_hostFault? fault, toPath_text_broken given fault⟩

theorem toPath_of_isLost (lost : l.IsLost here) :
    ∃ e : ClasspathError, e.kind = .directory ∧ l.toPath here = .error e := by
  cases lost with
  | @text e gone =>
    refine ⟨.nowhere e, rfl, ?_⟩
    rw [gone]
    rfl

theorem names_or_fails (here : Except FileError Place) (l : Location) :
    (∃ p, l.Names here p) ∨ l.IsForeign ∨ l.HasBrokenHost ∨ l.IsLost here := by
  cases l with
  | path p => exact .inl ⟨p, .path p⟩
  | other shown => exact .inr (.inl (.other shown))
  | text s =>
    by_cases empty : s = ""
    · subst empty
      cases told : here with
      | ok place => exact .inl ⟨_, .current rfl⟩
      | error e => exact .inr (.inr (.inr (.text rfl)))
    cases fault : hostFault? (Url.parts s).host.toList with
    | some e => exact .inr (.inr (.inl (.text fault)))
    | none =>
      by_cases scheme : (Url.parts s).scheme = "file"
      · by_cases host : (Url.parts s).host = "" ∨ (Url.parts s).host = "localhost"
        · exact .inl ⟨_, .file empty fault scheme host⟩
        · rw [not_or] at host
          exact .inr (.inl (.host fault scheme host.1 host.2))
      · by_cases long : 1 < (Url.parts s).scheme.length
        · exact .inr (.inl (.scheme fault long scheme))
        · exact .inl ⟨_, .plain empty fault (Nat.not_lt.mp long)⟩

theorem toPath_eq_ok_iff : l.toPath here = .ok p ↔ l.Names here p := by
  refine ⟨fun done => ?_, toPath_of_names⟩
  have fails {kind : ClasspathError.Kind}
      (failed : ∃ e : ClasspathError, e.kind = kind ∧ l.toPath here = .error e) : False := by
    obtain ⟨e, -, failed⟩ := failed
    exact nomatch failed.symm.trans done
  rcases names_or_fails here l with ⟨q, names⟩ | foreign | broken | lost
  · cases (toPath_of_names names).symm.trans done
    exact names
  · exact (fails (toPath_of_isForeign here foreign)).elim
  · exact (fails (toPath_of_hasBrokenHost here broken)).elim
  · exact (fails (toPath_of_isLost lost)).elim

/-- Which sort of location fails in which way. -/
def Fails (here : Except FileError Place) : ClasspathError.Kind → Location → Prop
  | .refusal => IsForeign
  | .host => HasBrokenHost
  | .directory => IsLost here

theorem fails_iff (here : Except FileError Place) (kind : ClasspathError.Kind) :
    l.Fails here kind ↔ ∃ e : ClasspathError, e.kind = kind ∧ l.toPath here = .error e := by
  have told {kind : ClasspathError.Kind} (fails : l.Fails here kind) :
      ∃ e : ClasspathError, e.kind = kind ∧ l.toPath here = .error e := by
    cases kind with
    | refusal => exact toPath_of_isForeign here fails
    | host => exact toPath_of_hasBrokenHost here fails
    | directory => exact toPath_of_isLost fails
  refine ⟨told, fun ⟨e, same, failed⟩ => ?_⟩
  have only (other : ClasspathError.Kind) (fails : l.Fails here other) : l.Fails here kind := by
    obtain ⟨e', same', failed'⟩ := told fails
    cases failed.symm.trans failed'
    rwa [← same, same']
  rcases names_or_fails here l with ⟨q, names⟩ | foreign | broken | lost
  · exact nomatch (toPath_of_names names).symm.trans failed
  · exact only .refusal foreign
  · exact only .host broken
  · exact only .directory lost

def IsUsable (here : Except FileError Place) (l : Location) : Prop :=
  ¬ l.IsForeign ∧ ¬ l.HasBrokenHost ∧ ¬ l.IsLost here

theorem isUsable_iff : l.IsUsable here ↔ ∃ p, l.toPath here = .ok p := by
  have foreign : l.IsForeign ↔ _ := fails_iff here .refusal
  have broken : l.HasBrokenHost ↔ _ := fails_iff here .host
  have lost : l.IsLost here ↔ _ := fails_iff here .directory
  rw [IsUsable, foreign, broken, lost]
  cases l.toPath here with
  | ok p => simp
  | error e => cases kind : e.kind <;> simp [kind]

end Location

theorem mapM_eq_ok_iff {α β ε : Type} {f : α → Except ε β} {xs : List α} {ys : List β} :
    xs.mapM f = .ok ys ↔ List.Forall₂ (fun x y => f x = .ok y) xs ys := by
  induction xs generalizing ys with
  | nil => cases ys <;> simp [pure, Except.pure]
  | cons x xs ih =>
    rw [List.mapM_cons]
    cases here : f x with
    | error e => cases ys <;> simp [bind, Except.bind, here]
    | ok y =>
      cases later : xs.mapM f with
      | error e => cases ys <;> simp [bind, Except.bind, here, ← ih, later]
      | ok others => cases ys <;> simp [bind, Except.bind, pure, Except.pure, here, ← ih, later]

theorem exists_mapM_eq_ok_iff {α β ε : Type} {f : α → Except ε β} {xs : List α} :
    (∃ ys, xs.mapM f = .ok ys) ↔ ∀ x ∈ xs, ∃ y, f x = .ok y := by
  induction xs with
  | nil => simp [pure, Except.pure]
  | cons x xs ih =>
    rw [List.mapM_cons, List.forall_mem_cons, ← ih]
    cases f x with
    | error e => simp [bind, Except.bind]
    | ok y => cases xs.mapM f <;> simp [bind, Except.bind, pure, Except.pure]

theorem mapM_eq_error_iff {α β ε : Type} {f : α → Except ε β} {xs : List α} {e : ε} :
    xs.mapM f = .error e ↔ ∃ front x back, xs = front ++ x :: back ∧ (∀ y ∈ front, ∃ b, f y = .ok b) ∧
      f x = .error e := by
  constructor
  · intro failed
    induction xs with
    | nil => cases failed
    | cons x xs ih =>
      rw [List.mapM_cons] at failed
      cases here : f x with
      | error e' =>
        rw [here] at failed
        cases failed
        exact ⟨[], x, xs, rfl, List.forall_mem_nil _, here⟩
      | ok y =>
        cases later : xs.mapM f with
        | ok ys =>
          rw [here, later] at failed
          cases failed
        | error e' =>
          rw [here, later] at failed
          cases failed
          obtain ⟨front, z, back, rfl, before, fails⟩ := ih later
          exact ⟨x :: front, z, back, rfl, List.forall_mem_cons.mpr ⟨⟨y, here⟩, before⟩, fails⟩
  · rintro ⟨front, x, back, rfl, before, fails⟩
    induction front with
    | nil =>
      rw [List.nil_append, List.mapM_cons, fails]
      rfl
    | cons y front ih =>
      rw [List.forall_mem_cons] at before
      obtain ⟨⟨b, here⟩, before⟩ := before
      rw [List.cons_append, List.mapM_cons, here, ih before]
      rfl

theorem mapM_toPath_fails_iff (here : Except FileError Place) (kind : ClasspathError.Kind)
    (locations : List Location) :
    (∃ e : ClasspathError, e.kind = kind ∧ locations.mapM (Location.toPath here) = .error e) ↔
      ∃ front l back, locations = front ++ l :: back ∧ (∀ m ∈ front, m.IsUsable here) ∧ l.Fails here kind := by
  simp only [mapM_eq_error_iff, Location.isUsable_iff, Location.fails_iff]
  constructor
  · rintro ⟨e, kind, front, l, back, split, before, failed⟩
    exact ⟨front, l, back, split, before, e, kind, failed⟩
  · rintro ⟨front, l, back, split, before, e, kind, failed⟩
    exact ⟨e, kind, front, l, back, split, before, failed⟩

section
variable {boot : Option (List String)} {loaded : Option (List Location)} {extra : List Path} {w w' : Workspace}

theorem gatherClasspath_eq_ok_iff {entries : List Path} :
    gatherClasspath boot loaded extra w = .ok entries w' ↔ w' = w.warned boot ∧
      ∃ locations paths, loaded = some locations ∧
        locations.mapM (Location.toPath w.files.here) = .ok paths ∧
        entries = (boot.getD []).map Path.ofString ++ paths ++ extra := by
  rw [gatherClasspath_run]
  cases loaded with
  | none => simp [entriesFrom]
  | some locations =>
    cases found : locations.mapM (Location.toPath w.files.here) with
    | error e => simp [entriesFrom, found, Except.map]
    | ok paths => simp [entriesFrom, found, Except.map, and_comm, eq_comm]

theorem gatherClasspath_eq_error_iff {e : Failure} :
    gatherClasspath boot loaded extra w = .error e w' ↔ w' = w.warned boot ∧ ∃ fault, e = .classpath fault ∧
      (loaded = none ∧ fault = .unresolved ∨ ∃ locations, loaded = some locations ∧
        locations.mapM (Location.toPath w.files.here) = .error fault) := by
  rw [gatherClasspath_run]
  cases loaded with
  | none => simp [entriesFrom, and_comm, eq_comm]
  | some locations =>
    cases found : locations.mapM (Location.toPath w.files.here) with
    | error fault => simp [entriesFrom, found, Except.map, and_comm, eq_comm]
    | ok paths => simp [entriesFrom, found, Except.map]

/-- The errors of one kind come from the first loaded location that is no entry, if that is of this kind, or
from nothing being loaded. -/
theorem gatherClasspath_fails_iff (kind : ClasspathError.Kind) :
    (∃ fault w', gatherClasspath boot loaded extra w = .error (.classpath fault) w' ∧ fault.kind = kind) ↔
      loaded = none ∧ kind = .refusal ∨ ∃ front l back, loaded = some (front ++ l :: back) ∧
        (∀ m ∈ front, m.IsUsable w.files.here) ∧ l.Fails w.files.here kind := by
  cases loaded with
  | none =>
    constructor
    · rintro ⟨fault, w', failed, same⟩
      obtain ⟨-, fault', told, ⟨-, rfl⟩ | ⟨locations, given, -⟩⟩ := gatherClasspath_eq_error_iff.mp failed
      · cases told
        exact .inl ⟨rfl, same.symm⟩
      · cases given
    · rintro (⟨-, rfl⟩ | ⟨front, l, back, given, -⟩)
      · exact ⟨.unresolved, _, gatherClasspath_eq_error_iff.mpr ⟨rfl, _, rfl, .inl ⟨rfl, rfl⟩⟩, rfl⟩
      · cases given
  | some locations =>
    have first := mapM_toPath_fails_iff w.files.here kind locations
    constructor
    · rintro ⟨fault, w', failed, same⟩
      obtain ⟨-, fault', told, ⟨given, -⟩ | ⟨locations', given, failed⟩⟩ :=
        gatherClasspath_eq_error_iff.mp failed
      · cases given
      · cases told
        cases given
        obtain ⟨front, l, back, split, before, fails⟩ := first.mp ⟨fault, same, failed⟩
        exact .inr ⟨front, l, back, congrArg some split, before, fails⟩
    · rintro (⟨given, -⟩ | ⟨front, l, back, given, before, fails⟩)
      · cases given
      · obtain ⟨fault, same, failed⟩ := first.mpr ⟨front, l, back, Option.some.inj given, before, fails⟩
        exact ⟨fault, _, gatherClasspath_eq_error_iff.mpr ⟨rfl, _, rfl, .inr ⟨_, rfl, failed⟩⟩, same⟩

end

/-- The entries of a classpath are the boot locations, a path for each loaded location and the further entries,
all in the order given and with none left out, and the log has one more record if there are no boot locations.
Gathering them fails only for want of the loaded locations or at the first of these that is no entry: it is
refused if it is foreign, and otherwise its host cannot be read, or it is the current directory and this is
gone. -/
theorem gatherClasspath_in_order (boot : Option (List String)) (loaded : Option (List Location))
    (extra : List Path) (w : Workspace) :
    finalState (gatherClasspath boot loaded extra w) =
      { w with log := w.log ++ if boot.isSome then [] else [bootWarning] } ∧
    (∀ entries, (∃ w', gatherClasspath boot loaded extra w = .ok entries w') ↔
      ∃ locations paths, loaded = some locations ∧
        List.Forall₂ (Location.Names w.files.here) locations paths ∧
        entries = (boot.getD []).map Path.ofString ++ paths ++ extra ∧
        entries.length = (boot.getD []).length + locations.length + extra.length) ∧
    ((∃ entries w', gatherClasspath boot loaded extra w = .ok entries w') ↔
      ∃ locations, loaded = some locations ∧ ∀ l ∈ locations, l.IsUsable w.files.here) ∧
    (∀ e w', gatherClasspath boot loaded extra w = .error e w' → ∃ fault, e = .classpath fault) ∧
    ((∃ fault w', gatherClasspath boot loaded extra w = .error (.classpath fault) w' ∧
        fault.kind = .refusal) ↔
      loaded = none ∨ ∃ front l back, loaded = some (front ++ l :: back) ∧
        (∀ m ∈ front, m.IsUsable w.files.here) ∧ l.IsForeign) ∧
    ((∃ fault w', gatherClasspath boot loaded extra w = .error (.classpath fault) w' ∧
        fault.kind = .host) ↔
      ∃ front l back, loaded = some (front ++ l :: back) ∧
        (∀ m ∈ front, m.IsUsable w.files.here) ∧ l.HasBrokenHost) ∧
    ((∃ fault w', gatherClasspath boot loaded extra w = .error (.classpath fault) w' ∧
        fault.kind = .directory) ↔
      ∃ front l back, loaded = some (front ++ l :: back) ∧
        (∀ m ∈ front, m.IsUsable w.files.here) ∧ l.IsLost w.files.here) := by
  have names (locations : List Location) (paths : List Path) :
      locations.mapM (Location.toPath w.files.here) = .ok paths ↔
        List.Forall₂ (Location.Names w.files.here) locations paths := by
    rw [mapM_eq_ok_iff]
    simp only [Location.toPath_eq_ok_iff]
  refine ⟨?state, fun entries => ?entries, ?succeeds, fun e w' failed => ?fails, ?refused, ?broken, ?lost⟩
  case state =>
    rw [gatherClasspath_run]
    cases entriesFrom boot loaded extra w.files.here <;> rfl
  case entries =>
    simp only [gatherClasspath_eq_ok_iff, names]
    constructor
    · rintro ⟨w', rfl, locations, paths, rfl, each, rfl⟩
      refine ⟨locations, paths, rfl, each, rfl, ?_⟩
      simp only [List.length_append, List.length_map, each.length_eq]
    · rintro ⟨locations, paths, rfl, each, same, -⟩
      exact ⟨_, rfl, locations, paths, rfl, each, same⟩
  case succeeds =>
    simp only [gatherClasspath_eq_ok_iff, Location.isUsable_iff, ← exists_mapM_eq_ok_iff]
    constructor
    · rintro ⟨entries, w', -, locations, paths, given, done, -⟩
      exact ⟨locations, given, paths, done⟩
    · rintro ⟨locations, given, paths, done⟩
      exact ⟨_, _, rfl, locations, paths, given, done, rfl⟩
  case fails =>
    obtain ⟨-, fault, told, -⟩ := gatherClasspath_eq_error_iff.mp failed
    exact ⟨fault, told⟩
  case refused =>
    rw [gatherClasspath_fails_iff .refusal]
    simp only [and_true]
    rfl
  case broken =>
    rw [gatherClasspath_fails_iff .host]
    simp only [reduceCtorEq, and_false, false_or]
    rfl
  case lost =>
    rw [gatherClasspath_fails_iff .directory]
    simp only [reduceCtorEq, and_false, false_or]
    rfl

/-- A path that begins with two slashes and a bracket is no entry, though it is not foreign. -/
theorem bracketed_path_escapes :
    gatherClasspath (some []) (some [.text "//["]) [] ⟨⟨[], [], .plain⟩, [], [], [], []⟩ =
      .error (.classpath .unbalancedHost) ⟨⟨[], [], .plain⟩, [], [], [], []⟩ ∧
    ClasspathError.unbalancedHost.kind = .host ∧ ¬ (Location.text "//[").IsForeign := by
  refine ⟨rfl, rfl, fun foreign => ?_⟩
  cases foreign with
  | scheme readable long scheme => exact absurd readable (by decide)
  | host readable scheme host elsewhere => exact absurd readable (by decide)

end PluginBuild
