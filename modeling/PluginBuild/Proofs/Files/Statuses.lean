import PluginBuild.Proofs.Files.Sound

/-!
What a path shows, in two trees. Only the places that the path goes through count, and before its end
only whether they are directories.
-/

namespace PluginBuild.Files

open PluginBuild.Text

/-- The entry that a way ends at; a free place has none. -/
def Destination.entry? : Destination → Option Entry
  | .found _ x => some x
  | .free _ => none

/-- What is told of the end of a way: of all that may keep it from its end, only names that are too
long are. -/
def shown : Except Errno Destination → Except Errno (Option Entry)
  | .ok d => .ok d.entry?
  | .error .nameTooLong => .error .nameTooLong
  | .error _ => .ok none

namespace FileTree

variable {t t' : FileTree} {p : Path}

theorem status?_eq (t : FileTree) (s : String) : t.status? s =
    if s.toList.contains '\x00' then .ok none
    else (shown (t.resolve true s)).mapError (.refused · s) := by
  unfold status? locate
  by_cases null : s.toList.contains '\x00' = true
  · rw [if_pos null, if_pos null]
  · rw [if_neg null, if_neg null]
    cases t.resolve true s with
    | ok d => cases d <;> rfl
    | error e => cases e <;> rfl

/-- Two trees in which names go through the same places: where they hold different entries, the names do
not end there, and neither entry is a directory. -/
def AlikeAlong (t t' : FileTree) (place : Place) (names : List String) : Prop :=
  ∀ front, front ≠ [] → front <+: names →
    t'.get? (writtenPlace place front) = t.get? (writtenPlace place front) ∨
    front ≠ names ∧ t.get? (writtenPlace place front) ≠ some .directory ∧
      t'.get? (writtenPlace place front) ≠ some .directory

theorem AlikeAlong.next {place : Place} {name : String} {rest : List String}
    (alike : AlikeAlong t t' place (name :: rest)) :
    AlikeAlong t t' (writtenPlace place [name]) rest := by
  intro front _ before
  have whole := alike (name :: front) (by simp) (List.cons_prefix_cons.mpr ⟨rfl, before⟩)
  simpa [writtenPlace] using whole

theorem shown_of_blocked (unlinked : t.IsUnlinked) {follow : Bool} {links : Nat} {place : Place}
    {name : String} {rest : List String} {ends : Bool} (valid : IsLookedUp name) (behind : rest ≠ [])
    (other : t.get? (place ++ [name]) ≠ some .directory) :
    shown (t.follow follow links place (name :: rest) ends) = .ok none := by
  rw [follow_cons, if_neg valid.1, if_neg (Nat.not_lt_of_le valid.2)]
  cases there : t.get? (place ++ [name]) with
  | none => simp [behind, shown]
  | some x =>
    cases x with
    | file content => simp [behind, shown]
    | directory => exact absurd there other
    | link target => exact absurd there (unlinked.get?_ne _ _)

theorem follow_alike (unlinked : t.IsUnlinked) (unlinked' : t'.IsUnlinked) {follow : Bool} {links : Nat}
    {place : Place} {names : List String} {ends : Bool} (alike : AlikeAlong t t' place names) :
    shown (t'.follow follow links place names ends) = shown (t.follow follow links place names ends) := by
  induction names generalizing place with
  | nil => rw [follow_nil, follow_nil]
  | cons name rest ih =>
    have later := ih alike.next
    by_cases up : name = ".."
    · rw [follow_cons, follow_cons, if_pos up, if_pos up]
      simpa [up, writtenPlace] using later
    have here := alike [name] (by simp) (by simp)
    have step : writtenPlace place [name] = place ++ [name] := by simp [writtenPlace, up]
    rw [step] at here later
    by_cases long : maxNameLength < name.utf8ByteSize
    · rw [follow_cons, follow_cons, if_neg up, if_neg up, if_pos long, if_pos long]
    have valid : IsLookedUp name := ⟨up, Nat.le_of_not_lt long⟩
    rcases here with same | ⟨more, other, other'⟩
    · rw [follow_cons, follow_cons, if_neg up, if_neg up, if_neg long, if_neg long, same]
      cases there : t.get? (place ++ [name]) with
      | none => rfl
      | some x =>
        cases x with
        | file content => rfl
        | directory => exact later
        | link target => exact absurd there (unlinked.get?_ne _ _)
    · have behind : rest ≠ [] := fun empty => more (by rw [empty])
      rw [shown_of_blocked unlinked valid behind other, shown_of_blocked unlinked' valid behind other']

def start (t : FileTree) (p : Path) : Place := if p.isAbsolute then [] else t.current

theorem placeOf_eq (t : FileTree) (p : Path) : t.placeOf p = writtenPlace (t.start p) p.parts := rfl

theorem resolve_text (normal : p.IsNormal) (t : FileTree) (follow : Bool) : t.resolve follow p.text =
    if maxPathLength < p.text.utf8ByteSize then .error .nameTooLong
    else t.follow follow maxLinks (t.start p) p.parts p.parts.isEmpty := by
  rw [resolve, if_neg (Path.text_ne_empty normal), Path.route_text normal, Path.startsWith_text normal,
    start]

theorem status?_alike (unlinked : t.IsUnlinked) (unlinked' : t'.IsUnlinked)
    (current : t'.current = t.current) (normal : p.IsNormal)
    (alike : AlikeAlong t t' (t.start p) p.parts) : t'.status? p.text = t.status? p.text := by
  have same : t'.start p = t.start p := by rw [start, start, current]
  rw [status?_eq, status?_eq, resolve_text normal, resolve_text normal, same]
  split
  · rfl
  · split
    · rfl
    · rw [follow_alike unlinked unlinked' alike]

theorem follow_append (follow : Bool) {links : Nat} {place middle : Place} {front : List String}
    (back : List String) {ends : Bool} (ends' : Bool) (unlinked : t.IsUnlinked)
    (way : Way t true links place front ends (.found middle .directory)) :
    t.follow follow links place (front ++ back) ends' = t.follow follow links middle back ends' := by
  generalize same : Destination.found middle .directory = d at way
  induction way with
  | here =>
    cases same
    rfl
  | above _ ih => rw [List.cons_append, follow_cons, if_pos rfl, ih same]
  | free => exact nomatch same
  | directory valid entry _ ih =>
    rw [List.cons_append, follow_cons, if_neg valid.1, if_neg (Nat.not_lt_of_le valid.2), entry]
    exact ih same
  | file => exact nomatch same
  | link _ entry | through _ entry => exact absurd entry (unlinked.get?_ne _ _)

/-- What a path behind a directory shows, by the entry of its name there. -/
def childStatus (entry : Path) (name : String) (x : Option Entry) : Except FileError (Option Entry) :=
  let s := (entry.child name).text
  if s.toList.contains '\x00' then .ok none
  else if maxPathLength < s.utf8ByteSize ∨ maxNameLength < name.utf8ByteSize then
    .error (.refused .nameTooLong s)
  else .ok x

/-- A name in a directory is looked up there, unless it is that of a link. -/
theorem status?_child_of_locate (normal : p.IsNormal) {name : String} (part : Path.IsNormalPart name)
    (down : name ≠ "..") {place : Place}
    (located : t.locate true p.text = .ok (.found place .directory))
    (plain : ∀ target, t.get? (place ++ [name]) ≠ some (.link target)) :
    t.status? (p.child name).text = childStatus p name (t.get? (place ++ [name])) := by
  have child := Path.child_of_isNormalPart p part
  have whole : (p.child name).IsNormal := by
    rw [child]
    exact Path.isNormal_append normal (by simpa using part)
  obtain ⟨-, way⟩ := locate_eq_ok_iff.mp located
  rw [Path.route_text normal, origin, Path.startsWith_text normal] at way
  -- The name is no link, so it does not matter how many links may still be followed.
  have fixed : ∀ links, t.follow true links place [name] false =
      t.follow true maxLinks place [name] false := by
    intro links
    rw [follow_cons, follow_cons, if_neg down, if_neg down]
    cases there : t.get? (place ++ [name]) with
    | none => rfl
    | some x =>
      cases x with
      | file content => simp
      | directory => simp only [follow_nil]
      | link target => exact absurd there (plain target)
  have followed : t.follow true maxLinks (t.start (p.child name)) (p.child name).parts
      (p.child name).parts.isEmpty = t.follow true maxLinks place [name] false := by
    have last : (p.parts ++ [name]).isEmpty = false := by simp
    rw [child, start, last]
    exact follow_append_of_same (List.cons_ne_nil _ _) way fixed
  rw [status?_eq, resolve_text whole, followed, childStatus]
  by_cases null : (p.child name).text.toList.contains '\x00' = true
  · simp only [null, if_true]
  · by_cases long : maxPathLength < (p.child name).text.utf8ByteSize
    · simp only [null, long, if_true, true_or]
      rfl
    · by_cases longName : maxNameLength < name.utf8ByteSize
      · simp only [null, long, longName, follow_cons, down, if_true, or_true]
        rfl
      · simp only [null, long, longName, follow_cons, down, if_false, or_self]
        cases there : t.get? (place ++ [name]) with
        | none => rfl
        | some x =>
          cases x with
          | file content => rfl
          | directory =>
            dsimp only
            rw [follow_nil]
            rfl
          | link target => exact absurd there (plain target)

theorem status?_child (unlinked : t.IsUnlinked) (normal : p.IsNormal) {name : String}
    (part : Path.IsNormalPart name) (down : name ≠ "..")
    (directory : t.status? p.text = .ok (some .directory)) :
    t.status? (p.child name).text = childStatus p name (t.get? (t.placeOf p ++ [name])) := by
  obtain ⟨place, located⟩ : ∃ place, t.locate true p.text = .ok (.found place .directory) := by
    unfold status? at directory
    split at directory <;> simp_all
  have here : place = t.placeOf p := locate_place unlinked normal located
  rw [← here]
  exact status?_child_of_locate normal part down located (unlinked.get?_ne _)

end FileTree

end PluginBuild.Files
