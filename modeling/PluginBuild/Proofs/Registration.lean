import Mathlib.Data.List.DropRight
import Mathlib.Data.List.Nodup
import PluginBuild.Checks.Builtin
import PluginBuild.Proofs.Entries

/-!
Checks that are registered one after the other. A registry holds the checks whose calls were not refused, by
their names without the blank characters around them, and it holds no name twice. So each name that it lists
is known to it, and a run through its names runs every check once.
-/

namespace PluginBuild

open PluginBuild.Text

namespace Text

theorem dropWhile_of_prefix {α : Type} {p : α → Bool} {part whole : List α}
    (front : part <+: whole.dropWhile p) : part.dropWhile p = part := by
  rw [List.dropWhile_eq_self_iff]
  intro some
  have head := front.getElem some
  rw [head]
  exact List.dropWhile_get_zero_not p whole _

theorem strip_strip (s : String) : strip (strip s) = strip s := by
  obtain ⟨text, same⟩ : ∃ text, text = (s.toList.dropWhile isBlank).rdropWhile isBlank := ⟨_, rfl⟩
  have front : text.dropWhile isBlank = text := by
    apply dropWhile_of_prefix
    rw [same]
    exact List.rdropWhile_prefix isBlank _
  have back : text.rdropWhile isBlank = text := by
    rw [same, List.rdropWhile_idempotent]
  have stripped : strip s = String.ofList text := by
    rw [same, strip, List.rdropWhile]
  rw [stripped, strip, String.toList_ofList, front, ← List.rdropWhile, back]

end Text

namespace Registry

variable {α : Type} {r : Registry α} {name key : String} {check : α}

/-- The registry after a call. One that is refused leaves it as it was. -/
def afterCall (r : Registry α) (call : String × α) : Registry α :=
  match r.register call.1 call.2 with
  | .ok grown => grown
  | .error _ => r

def afterCalls (r : Registry α) (calls : List (String × α)) : Registry α := calls.foldl afterCall r

/-- The calls that are not refused, each made on the registry that those before it left. -/
def accepted (r : Registry α) : List (String × α) → List (String × α)
  | [] => []
  | call :: rest =>
    match r.register call.1 call.2 with
    | .ok grown => call :: accepted grown rest
    | .error _ => accepted r rest

theorem register_cases (r : Registry α) (name : String) (check : α) :
    (strip name = "" ∧ r.register name check = .error .emptyName) ∨
    (strip name ≠ "" ∧ strip name ∈ r.names ∧
      r.register name check = .error (.registered (strip name))) ∨
    (strip name ≠ "" ∧ strip name ∉ r.names ∧
      r.register name check = .ok ⟨r.checks ++ [(strip name, check)]⟩) := by
  by_cases empty : strip name = ""
  · exact .inl ⟨empty, by simp [register, empty]⟩
  · by_cases known : strip name ∈ r.names
    · exact .inr (.inl ⟨empty, known, by simp [register, empty, known]⟩)
    · exact .inr (.inr ⟨empty, known, by simp [register, empty, known]⟩)

theorem register_eq_error_iff {e : RegistryError} : r.register name check = .error e ↔
    strip name = "" ∧ e = .emptyName ∨
      strip name ≠ "" ∧ strip name ∈ r.names ∧ e = .registered (strip name) := by
  rcases register_cases r name check with ⟨empty, made⟩ | ⟨some, known, made⟩ | ⟨some, fresh, made⟩
  · simp [made, empty, eq_comm]
  · simp [made, some, known, eq_comm]
  · simp [made, some, fresh]

theorem afterCall_of_ok {call : String × α} {grown : Registry α}
    (done : r.register call.1 call.2 = .ok grown) : r.afterCall call = grown := by
  simp [afterCall, done]

theorem afterCall_of_error {call : String × α} {e : RegistryError}
    (refused : r.register call.1 call.2 = .error e) : r.afterCall call = r := by
  simp [afterCall, refused]

section
variable {calls : List (String × α)} {call : String × α}

theorem afterCalls_cons (r : Registry α) (call : String × α) (calls : List (String × α)) :
    r.afterCalls (call :: calls) = (r.afterCall call).afterCalls calls := by
  rw [afterCalls, List.foldl_cons, ← afterCalls]

theorem afterCalls_concat (r : Registry α) (calls : List (String × α)) (call : String × α) :
    r.afterCalls (calls ++ [call]) = (r.afterCalls calls).afterCall call := by
  simp [afterCalls]

theorem accepted_concat (r : Registry α) (calls : List (String × α)) (call : String × α) :
    r.accepted (calls ++ [call]) = r.accepted calls ++ (r.afterCalls calls).accepted [call] := by
  induction calls generalizing r with
  | nil => simp [accepted, afterCalls]
  | cons first rest ih =>
    rw [List.cons_append, accepted, accepted, afterCalls_cons]
    cases made : r.register first.1 first.2 with
    | ok grown => simp [afterCall, made, ih]
    | error e => simp [afterCall, made, ih]

theorem after_refused {e : RegistryError}
    (refused : (r.afterCalls calls).register call.1 call.2 = .error e) :
    r.afterCalls (calls ++ [call]) = r.afterCalls calls ∧
      r.accepted (calls ++ [call]) = r.accepted calls := by
  rw [afterCalls_concat, afterCall_of_error refused, accepted_concat]
  simp [accepted, refused]

theorem after_accepted {grown : Registry α}
    (done : (r.afterCalls calls).register call.1 call.2 = .ok grown) :
    r.afterCalls (calls ++ [call]) = grown ∧
      r.accepted (calls ++ [call]) = r.accepted calls ++ [call] := by
  rw [afterCalls_concat, afterCall_of_ok done, accepted_concat]
  simp [accepted, done]

end

theorem accepted_sublist (r : Registry α) (calls : List (String × α)) :
    (r.accepted calls).Sublist calls := by
  induction calls generalizing r with
  | nil => exact List.Sublist.refl []
  | cons call rest ih =>
    rw [accepted]
    split
    · exact (ih _).cons_cons call
    · exact (ih r).cons call

theorem checks_afterCalls (r : Registry α) (calls : List (String × α)) :
    (r.afterCalls calls).checks =
      r.checks ++ (r.accepted calls).map fun call => (strip call.1, call.2) := by
  induction calls generalizing r with
  | nil => simp [afterCalls, accepted]
  | cons call rest ih =>
    rw [afterCalls_cons, ih, accepted]
    rcases register_cases r call.1 call.2 with ⟨_, made⟩ | ⟨_, _, made⟩ | ⟨_, _, made⟩
    · simp [afterCall, made]
    · simp [afterCall, made]
    · simp [afterCall, made]

theorem names_afterCall (r : Registry α) (call : String × α) : (r.afterCall call).names =
    if strip call.1 = "" ∨ strip call.1 ∈ r.names then r.names else r.names ++ [strip call.1] := by
  rcases register_cases r call.1 call.2 with ⟨empty, made⟩ | ⟨_, known, made⟩ | ⟨some, fresh, made⟩
  · simp [afterCall_of_error made, empty]
  · simp [afterCall_of_error made, known]
  · rw [afterCall_of_ok made, if_neg (by simp [some, fresh])]
    simp [names]

theorem names_eq_eraseDups (calls : List (String × α)) : (Registry.empty.afterCalls calls).names =
    ((calls.map fun call => strip call.1).filter (· ≠ "")).eraseDups := by
  induction calls using List.reverseRecOn with
  | nil => rfl
  | append_singleton front call ih =>
    rw [afterCalls_concat, names_afterCall, List.map_append, List.filter_append, List.eraseDups_append, ih]
    generalize (front.map fun call => strip call.1).filter (· ≠ "") = before
    -- An empty name or one that is taken changes nothing; any other one comes at the end.
    by_cases empty : strip call.1 = ""
    · simp [empty]
    · by_cases again : strip call.1 ∈ before
      · simp [empty, again, List.removeAll]
      · simp [empty, again, List.removeAll, List.eraseDups_cons]

/-- What every registry is that calls lead to. -/
structure IsSound (r : Registry α) : Prop where
  distinct : r.names.Nodup
  nonempty : "" ∉ r.names
  stripped : ∀ key ∈ r.names, strip key = key

theorem IsSound.empty : (Registry.empty : Registry α).IsSound :=
  ⟨List.nodup_nil, by simp [Registry.empty, names], by simp [Registry.empty, names]⟩

theorem IsSound.afterCall (sound : r.IsSound) (call : String × α) : (r.afterCall call).IsSound := by
  rcases register_cases r call.1 call.2 with ⟨_, made⟩ | ⟨_, _, made⟩ | ⟨some, fresh, made⟩
  · rw [afterCall_of_error made]
    exact sound
  · rw [afterCall_of_error made]
    exact sound
  · rw [afterCall_of_ok made]
    have listed : names ⟨r.checks ++ [(strip call.1, call.2)]⟩ = r.names ++ [strip call.1] := by
      simp [names]
    constructor
    · rw [listed, ← List.concat_eq_append, List.nodup_concat]
      exact ⟨fresh, sound.distinct⟩
    · simp [listed, sound.nonempty, Ne.symm some]
    · intro key member
      rw [listed, List.mem_append, List.mem_singleton] at member
      rcases member with before | rfl
      · exact sound.stripped key before
      · exact strip_strip call.1

theorem IsSound.afterCalls (sound : r.IsSound) (calls : List (String × α)) :
    (r.afterCalls calls).IsSound := by
  induction calls generalizing r with
  | nil => exact sound
  | cons call rest ih =>
    rw [afterCalls_cons]
    exact ih (sound.afterCall call)

theorem get_of_mem (distinct : r.names.Nodup) (member : (key, check) ∈ r.checks) :
    r.get key = .ok check := by
  rw [get, lookup_of_mem distinct member]

theorem get_of_absent (absent : key ∉ r.names) : r.get key = .error (.unknown key) := by
  rw [get, lookup_of_absent absent]

section
variable {m : Type → Type} [Monad m] [LawfulMonad m]

theorem run_of_get {execute : α → m Unit} (known : r.get name = .ok check) :
    r.run execute name = liftM (execute check) := by
  have given : (liftM (.ok check : Except RegistryError α) : ExceptT RegistryError m α) = pure check := rfl
  rw [run, known, given, pure_bind]

/-- A run through the names of a registry, with a step before each check, is a run of the checks
themselves: no name is unknown. -/
theorem forM_names (distinct : r.names.Nodup) (before : String → m Unit) (execute : α → m Unit) :
    (r.names.forM fun name => (do before name; r.run execute name : ExceptT RegistryError m Unit)) =
      liftM (r.checks.forM fun (name, check) => do before name; execute check) := by
  have known : ∀ entry ∈ r.checks, r.get entry.1 = .ok entry.2 := by
    intro entry member
    exact get_of_mem distinct member
  simp only [names, List.forM_eq_forM, List.forM_map]
  generalize r.checks = part at known
  induction part with
  | nil => simp
  | cons entry rest ih =>
    obtain ⟨here, later⟩ := List.forall_mem_cons.mp known
    simp only [List.forM_cons, run_of_get here, ih later, liftM_bind, bind_assoc]

end

/-- Calls on an empty registry. A call is refused exactly if nothing is left of its name without the blank
characters around it, or if the name is then that of an earlier call that was accepted; a refused call
changes nothing. The names that the registry lists are those of the accepted calls, in their order and none
twice. Under each of them it gives the check of that call, and no other name is known to it. So a run through
the names, with any step before each check, runs the check of each accepted call once and no name fails. -/
theorem registered_by_calls (calls : List (String × α)) :
    let r : Registry α := Registry.empty.afterCalls calls
    let kept := Registry.empty.accepted calls
    (∀ name check,
      (∀ e, r.register name check = .error e ↔
        strip name = "" ∧ e = .emptyName ∨
        strip name ≠ "" ∧ (∃ call ∈ kept, strip call.1 = strip name) ∧ e = .registered (strip name)) ∧
      (∀ e, r.register name check = .error e →
        Registry.empty.afterCalls (calls ++ [(name, check)]) = r ∧
        Registry.empty.accepted (calls ++ [(name, check)]) = kept) ∧
      ∀ grown, r.register name check = .ok grown →
        Registry.empty.afterCalls (calls ++ [(name, check)]) = grown ∧
        Registry.empty.accepted (calls ++ [(name, check)]) = kept ++ [(name, check)]) ∧
    kept.Sublist calls ∧ r.names = kept.map (fun call => strip call.1) ∧ r.names.Nodup ∧
    r.names = ((calls.map fun call => strip call.1).filter (· ≠ "")).eraseDups ∧
    (∀ key ∈ r.names, key ≠ "" ∧ strip key = key) ∧
    (∀ call ∈ kept, r.get (strip call.1) = .ok call.2) ∧
    (∀ key, key ∉ r.names → r.get key = .error (.unknown key)) ∧
    ∀ (m : Type → Type) [Monad m] [LawfulMonad m] (before : String → m Unit) (execute : α → m Unit),
      (r.names.forM fun name => (do before name; r.run execute name : ExceptT RegistryError m Unit)) =
        liftM (kept.forM fun call => do before (strip call.1); execute call.2) := by
  intro r kept
  have held : r.checks = kept.map fun call => (strip call.1, call.2) :=
    checks_afterCalls Registry.empty calls
  have sound : r.IsSound := IsSound.empty.afterCalls calls
  have listed : r.names = kept.map (fun call => strip call.1) := by
    rw [names, held, List.map_map]
    rfl
  refine ⟨?_, accepted_sublist _ calls, listed, sound.distinct, names_eq_eraseDups calls, ?_, ?_, ?_, ?_⟩
  · intro name check
    refine ⟨?_, ?_, ?_⟩
    · intro e
      rw [register_eq_error_iff, listed, List.mem_map]
    · intro e refused
      exact after_refused refused
    · intro grown done
      exact after_accepted done
  · intro key member
    exact ⟨fun empty => sound.nonempty (empty ▸ member), sound.stripped key member⟩
  · intro call member
    have there : (strip call.1, call.2) ∈ r.checks := held ▸ List.mem_map_of_mem member
    exact get_of_mem sound.distinct there
  · intro key absent
    exact get_of_absent absent
  · intro m _ _ before execute
    rw [forM_names sound.distinct, held, List.forM_eq_forM, List.forM_map]

/-- Four calls, of which two are refused. -/
def sampleCalls : List (String × Nat) := [("  a ", 1), ("a", 2), ("\t", 3), ("b", 4)]

/-- A name that is taken, but for the blank characters around it, is refused, and so is a blank one. The
names of the other two calls are listed, and a run through them meets the numbers of these calls. -/
theorem sampleCalls_registered :
    let r := Registry.empty.afterCalls sampleCalls
    let before : String → StateM (List Nat) Unit := fun _ => pure ()
    let collect : Nat → StateM (List Nat) Unit := fun n => modify (· ++ [n])
    r.names = ["a", "b"] ∧ r.register "a " 5 = .error (.registered "a") ∧
      r.register " " 5 = .error .emptyName ∧ r.get "b" = .ok 4 ∧
      r.get " b" = .error (.unknown " b") ∧
      (r.names.forM fun name => (do
        before name; r.run collect name : ExceptT RegistryError (StateM (List Nat)) Unit)).run.run [] =
          (.ok (), [1, 4]) := by
  intro r before collect
  obtain ⟨step, -, listed, -, -, -, known, unknown, runs⟩ := registered_by_calls sampleCalls
  have kept : Registry.empty.accepted sampleCalls = [("  a ", 1), ("b", 4)] := by decide
  rw [kept] at step listed known runs
  have names : r.names = ["a", "b"] := listed
  refine ⟨names, ?_, ?_, ?_, ?_, ?_⟩
  · exact ((step "a " 5).1 (.registered "a")).mpr (.inr ⟨by decide, by decide, by decide⟩)
  · exact ((step " " 5).1 .emptyName).mpr (.inl ⟨by decide, rfl⟩)
  · exact known ("b", 4) (by decide)
  · exact unknown " b" (by rw [names]; decide)
  · rw [runs (StateM (List Nat)) before collect]
    rfl

end Registry

theorem builtinChecks_of_calls : Registry.empty.afterCalls [("declarations", checkDeclarations),
    ("script-body", checkBody), ("imports", checkImports), ("template", checkTemplate)] = builtinChecks := by
  rfl

/-- The checks run on a source as they do one by one under their names, with the name of each recorded
before it. -/
theorem runChecks_by_name (s : Subject) :
    (builtinChecks.names.forM fun name => (do
      Build.record .debug s!"module={s.configuration.moduleName} check={name}"
      builtinChecks.run (fun check => check s) name : ExceptT RegistryError Analysis Unit)) =
        liftM (runChecks s) := by
  have sound : builtinChecks.IsSound := builtinChecks_of_calls ▸ Registry.IsSound.empty.afterCalls _
  exact Registry.forM_names sound.distinct _ _

end PluginBuild
