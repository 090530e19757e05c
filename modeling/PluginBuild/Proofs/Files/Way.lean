import PluginBuild.Files.Resolve

/-!
Following names as a relation. A way is what the names ahead go through, one step for each kind of
entry that a name may lead to; it ends where following the names does.
-/

namespace PluginBuild.Files

open PluginBuild.Text

/-- A name that is looked up as it is. -/
def IsLookedUp (name : String) : Prop := name ≠ ".." ∧ name.utf8ByteSize ≤ maxNameLength

/-- Where names lead from a directory on, with as many links as said. `follow` and `ends` say whether
a link at the end is followed and whether a directory must be there. -/
inductive Way (t : FileTree) (follow : Bool) :
    (links : Nat) → (place : Place) → (names : List String) → (ends : Bool) → Destination → Prop
  | here {links : Nat} {place : Place} {ends : Bool} :
    Way t follow links place [] ends (.found place .directory)
  | above {links : Nat} {place : Place} {rest : List String} {ends : Bool} {d : Destination}
    (next : Way t follow links place.dropLast rest ends d) :
    Way t follow links place (".." :: rest) ends d
  | free {links : Nat} {place : Place} {name : String} {ends : Bool} (valid : IsLookedUp name)
    (none : t.get? (place ++ [name]) = none) :
    Way t follow links place [name] ends (.free (place ++ [name]))
  | directory {links : Nat} {place : Place} {name : String} {rest : List String} {ends : Bool}
    {d : Destination} (valid : IsLookedUp name) (entry : t.get? (place ++ [name]) = some .directory)
    (next : Way t follow links (place ++ [name]) rest ends d) :
    Way t follow links place (name :: rest) ends d
  | file {links : Nat} {place : Place} {name : String} {content : Bytes} (valid : IsLookedUp name)
    (entry : t.get? (place ++ [name]) = some (.file content)) :
    Way t follow links place [name] false (.found (place ++ [name]) (.file content))
  | link {links : Nat} {place : Place} {name target : String} (valid : IsLookedUp name)
    (entry : t.get? (place ++ [name]) = some (.link target)) (kept : follow = false) :
    Way t follow links place [name] false (.found (place ++ [name]) (.link target))
  | through {links : Nat} {place : Place} {name target : String} {rest : List String} {ends : Bool}
    {d : Destination} (valid : IsLookedUp name)
    (entry : t.get? (place ++ [name]) = some (.link target))
    (followed : ¬ (rest = [] ∧ follow = false ∧ ends = false))
    (next : Way t follow links (if startsWith target "/" then [] else place)
      ((Route.ofString target).names ++ rest)
      (ends || (rest.isEmpty && (Route.ofString target).endsInDirectory)) d) :
    Way t follow (links + 1) place (name :: rest) ends d

namespace FileTree

theorem follow_nil (t : FileTree) (follow : Bool) (links : Nat) (place : Place) (ends : Bool) :
    t.follow follow links place [] ends = .ok (.found place .directory) := by
  cases links <;> simp [FileTree.follow, followNames]

theorem follow_cons (t : FileTree) (follow : Bool) (links : Nat) (place : Place) (name : String)
    (rest : List String) (ends : Bool) :
    t.follow follow links place (name :: rest) ends =
      if name = ".." then t.follow follow links place.dropLast rest ends
      else if maxNameLength < name.utf8ByteSize then .error .nameTooLong
      else match t.get? (place ++ [name]) with
        | none => if rest = [] then .ok (.free (place ++ [name])) else .error .noEntry
        | some .directory => t.follow follow links (place ++ [name]) rest ends
        | some (.file content) =>
          if rest = [] ∧ !ends then .ok (.found (place ++ [name]) (.file content))
          else .error .notDirectory
        | some (.link target) =>
          if rest = [] ∧ !follow ∧ !ends then .ok (.found (place ++ [name]) (.link target))
          else match links with
            | 0 => .error .tooManyLinks
            | links + 1 =>
              t.follow follow links (if startsWith target "/" then [] else place)
                ((Route.ofString target).names ++ rest)
                (ends || (rest.isEmpty && (Route.ofString target).endsInDirectory)) := by
  cases links <;> rfl

/-- Induction along a way: the names behind one are followed with the same links, and a link starts
over with any names and fewer links. -/
theorem follow_induction {motive : Nat → Place → List String → Bool → Prop}
    (nil : ∀ links place ends, motive links place [] ends)
    (cons : ∀ links place name rest ends, (∀ place, motive links place rest ends) →
      (∀ fewer < links, ∀ place names ends, motive fewer place names ends) →
        motive links place (name :: rest) ends)
    (links : Nat) (place : Place) (names : List String) (ends : Bool) :
    motive links place names ends := by
  induction links using Nat.strongRecOn generalizing place names ends with
  | _ links ihLinks =>
    induction names generalizing place with
    | nil => exact nil links place ends
    | cons name rest ih => exact cons links place name rest ends ih ihLinks

theorem way_of_follow {t : FileTree} {follow : Bool} {links : Nat} {place : Place}
    {names : List String} {ends : Bool} {d : Destination}
    (found : t.follow follow links place names ends = .ok d) :
    Way t follow links place names ends d := by
  induction links, place, names, ends using follow_induction with
  | nil links place ends =>
    rw [follow_nil] at found
    cases found
    exact .here
  | cons links place name rest ends ih ihLinks =>
    rw [follow_cons] at found
    -- The cases below are those of `follow_cons`, in its order.
    split at found
    · rename_i same
      subst same
      exact .above (ih _ found)
    rename_i differ
    split at found
    · exact nomatch found
    rename_i short
    have valid : IsLookedUp name := ⟨differ, Nat.le_of_not_lt short⟩
    split at found <;> rename_i entry
    · split at found
      · rename_i last
        subst last
        cases found
        exact .free valid entry
      · exact nomatch found
    · exact .directory valid entry (ih _ found)
    · split at found
      · rename_i last
        obtain ⟨rfl, noEnd⟩ := last
        obtain rfl : ends = false := by simpa using noEnd
        cases found
        exact .file valid entry
      · exact nomatch found
    · split at found
      · rename_i last
        obtain ⟨rfl, kept, noEnd⟩ := last
        obtain rfl : ends = false := by simpa using noEnd
        cases found
        exact .link valid entry (by simpa using kept)
      · rename_i followed
        cases links with
        | zero => exact nomatch found
        | succ links =>
          exact .through valid entry (by simpa using followed)
            (ihLinks links (Nat.lt_succ_self links) _ _ _ found)

theorem follow_of_way {t : FileTree} {follow : Bool} {links : Nat} {place : Place}
    {names : List String} {ends : Bool} {d : Destination}
    (way : Way t follow links place names ends d) :
    t.follow follow links place names ends = .ok d := by
  induction way with
  | here => exact follow_nil ..
  | above _ ih => rw [follow_cons, if_pos rfl, ih]
  | free valid entry =>
    rw [follow_cons, if_neg valid.1, if_neg (Nat.not_lt_of_le valid.2)]
    simp [entry]
  | directory valid entry _ ih =>
    rw [follow_cons, if_neg valid.1, if_neg (Nat.not_lt_of_le valid.2)]
    simp [entry, ih]
  | file valid entry =>
    rw [follow_cons, if_neg valid.1, if_neg (Nat.not_lt_of_le valid.2)]
    simp [entry]
  | link valid entry kept =>
    rw [follow_cons, if_neg valid.1, if_neg (Nat.not_lt_of_le valid.2)]
    simp [entry, kept]
  | through valid entry followed _ ih =>
    rw [follow_cons, if_neg valid.1, if_neg (Nat.not_lt_of_le valid.2)]
    simp only [entry, ih]
    rw [if_neg (by simpa using followed)]

theorem follow_eq_ok_iff {t : FileTree} {follow : Bool} {links : Nat} {place : Place}
    {names : List String} {ends : Bool} {d : Destination} :
    t.follow follow links place names ends = .ok d ↔ Way t follow links place names ends d :=
  ⟨way_of_follow, follow_of_way⟩

/-- Names behind others are followed from where these lead, if following them comes to the same with any
number of links. -/
theorem follow_append_of_same {t : FileTree} {follow : Bool} {links : Nat} {place middle : Place}
    {front back : List String} {ends ends' : Bool} {result : Except Errno Destination}
    (more : back ≠ []) (way : Way t true links place front ends (.found middle .directory))
    (same : ∀ links, t.follow follow links middle back ends' = result) :
    t.follow follow links place (front ++ back) ends' = result := by
  generalize target : Destination.found middle .directory = d at way
  induction way with
  | here =>
    cases target
    exact same _
  | above _ ih => rw [List.cons_append, follow_cons, if_pos rfl, ih target]
  | free => exact nomatch target
  | directory valid entry _ ih =>
    rw [List.cons_append, follow_cons, if_neg valid.1, if_neg (Nat.not_lt_of_le valid.2), entry]
    exact ih target
  | file => exact nomatch target
  | link _ _ kept => exact nomatch kept
  | @through links place name link rest ends d valid entry _ _ ih =>
    -- With names behind it, the link is followed whatever is asked of its end.
    have behind : rest ++ back ≠ [] := by simp [more]
    have later : t.follow follow links (if startsWith link "/" then [] else place)
        ((Route.ofString link).names ++ (rest ++ back)) ends' = result := by
      rw [← List.append_assoc]
      exact ih target
    rw [List.cons_append, follow_cons, if_neg valid.1, if_neg (Nat.not_lt_of_le valid.2), entry]
    simp only [behind, false_and, if_false, List.isEmpty_eq_false_iff.mpr behind, Bool.false_and,
      Bool.or_false]
    exact later

end FileTree

def Destination.place : Destination → Place
  | .found place _ => place
  | .free place => place

namespace Way

variable {t : FileTree} {follow : Bool} {links : Nat} {place : Place} {names : List String}
  {ends : Bool} {d : Destination}

theorem unique {other : Destination} (one : Way t follow links place names ends d)
    (two : Way t follow links place names ends other) : d = other :=
  Except.ok.inj ((FileTree.follow_of_way one).symm.trans (FileTree.follow_of_way two))

theorem split {front back : List String} (way : Way t follow links place (front ++ back) ends d)
    (more : back ≠ []) : ∃ middle fewer,
      (∀ ends, Way t true links place front ends (.found middle .directory)) ∧
        Way t follow fewer middle back ends d := by
  -- A step with no name in front of it is a step of the names behind; any other one is the first step of
  -- the names in front.
  generalize same : front ++ back = names at way
  induction way generalizing front with
  | here => exact absurd (List.append_eq_nil_iff.mp same).2 more
  | @above links place rest ends d next ih =>
    cases front with
    | nil =>
      obtain rfl : back = _ := same
      exact ⟨place, links, fun _ => .here, .above next⟩
    | cons first front =>
      obtain ⟨rfl, rfl⟩ := List.cons.inj same
      obtain ⟨middle, fewer, one, two⟩ := ih rfl
      exact ⟨middle, fewer, fun ends => .above (one ends), two⟩
  | @free links place name ends valid none =>
    cases front with
    | nil =>
      obtain rfl : back = _ := same
      exact ⟨place, links, fun _ => .here, .free valid none⟩
    | cons first front =>
      obtain ⟨rfl, empty⟩ := List.cons.inj same
      exact absurd (List.append_eq_nil_iff.mp empty).2 more
  | @directory links place name rest ends d valid entry next ih =>
    cases front with
    | nil =>
      obtain rfl : back = _ := same
      exact ⟨place, links, fun _ => .here, .directory valid entry next⟩
    | cons first front =>
      obtain ⟨rfl, rfl⟩ := List.cons.inj same
      obtain ⟨middle, fewer, one, two⟩ := ih rfl
      exact ⟨middle, fewer, fun ends => .directory valid entry (one ends), two⟩
  | @file links place name content valid entry =>
    cases front with
    | nil =>
      obtain rfl : back = _ := same
      exact ⟨place, links, fun _ => .here, .file valid entry⟩
    | cons first front =>
      obtain ⟨rfl, empty⟩ := List.cons.inj same
      exact absurd (List.append_eq_nil_iff.mp empty).2 more
  | @link links place name target valid entry kept =>
    cases front with
    | nil =>
      obtain rfl : back = _ := same
      exact ⟨place, links, fun _ => .here, .link valid entry kept⟩
    | cons first front =>
      obtain ⟨rfl, empty⟩ := List.cons.inj same
      exact absurd (List.append_eq_nil_iff.mp empty).2 more
  | @through links place name target rest ends d valid entry followed next ih =>
    cases front with
    | nil =>
      obtain rfl : back = _ := same
      exact ⟨place, links + 1, fun _ => .here, .through valid entry followed next⟩
    | cons first front =>
      obtain ⟨rfl, rfl⟩ := List.cons.inj same
      obtain ⟨middle, fewer, one, two⟩ := ih (List.append_assoc ..)
      have later : (front ++ back).isEmpty = false := by simp [more]
      rw [List.append_eq, later, Bool.false_and, Bool.or_false] at two
      exact ⟨middle, fewer, fun ends => .through valid entry (by simp) (one _), two⟩

theorem followed (way : Way t false links place names ends d)
    (noLink : ∀ p target, d ≠ .found p (.link target)) : Way t true links place names ends d := by
  induction way with
  | here => exact .here
  | above _ ih => exact .above (ih noLink)
  | free valid none => exact .free valid none
  | directory valid entry _ ih => exact .directory valid entry (ih noLink)
  | file valid entry => exact .file valid entry
  | link => exact absurd rfl (noLink _ _)
  | through valid entry _ _ ih => exact .through valid entry (by simp) (ih noLink)

theorem not_link (way : Way t follow links place names ends d) (followed : follow = true) (p : Place)
    (target : String) : d ≠ .found p (.link target) := by
  induction way with
  | here | free | file => simp
  | above _ ih | directory _ _ _ ih | through _ _ _ _ ih => exact ih
  | link _ _ kept => simp [followed] at kept

theorem entry_of_found {p : Place} {x : Entry} (way : Way t follow links place names ends (.found p x))
    (other : x ≠ .directory) : t.get? p = some x := by
  generalize same : Destination.found p x = d at way
  induction way with
  | here =>
    cases same
    exact absurd rfl other
  | above _ ih | directory _ _ _ ih | through _ _ _ _ ih => exact ih same
  | free => exact nomatch same
  | file _ entry | link _ entry =>
    cases same
    exact entry

theorem none_of_free {p : Place} (way : Way t follow links place names ends (.free p)) :
    p ≠ [] ∧ t.get? p = none := by
  generalize same : Destination.free p = d at way
  induction way with
  | here | file | link => exact nomatch same
  | above _ ih | directory _ _ _ ih | through _ _ _ _ ih => exact ih same
  | free _ none =>
    cases same
    exact ⟨by simp, none⟩

/-- Below a directory without links, names other than the double dot lead to the place that they
write. -/
theorem place_of_unlinked {root : Place}
    (unlinked : ∀ p target, root <+: p → p ≠ root → t.get? p ≠ some (.link target))
    (way : Way t follow links place names ends d) (inside : root <+: place)
    (down : ".." ∉ names) : d.place = place ++ names := by
  induction way with
  | here => simp [Destination.place]
  | above => exact absurd List.mem_cons_self down
  | free | file => rfl
  | directory _ _ _ ih =>
    rw [ih (inside.trans (List.prefix_append _ _)) (fun member => down (List.mem_cons_of_mem _ member))]
    simp
  | @link _ place name _ _ entry | @through _ place name _ _ _ _ _ entry =>
    have below : root <+: place ++ [name] := inside.trans (List.prefix_append _ _)
    refine absurd entry (unlinked _ _ below ?_)
    rintro same
    have shorter := inside.length_le
    simp only [← same, List.length_append, List.length_singleton] at shorter
    omega

end Way

end PluginBuild.Files
