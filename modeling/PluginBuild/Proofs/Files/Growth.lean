import PluginBuild.Proofs.Files.Way

/-!
Trees that only grow. Entries come new and files get other content, but directories and links stay,
so a way that led somewhere leads there from then on.
-/

namespace PluginBuild.Files

open PluginBuild.Text

/-- Entries that a way goes on from alike. -/
def Entry.SameKind : Entry → Entry → Prop
  | .file _, .file _ => True
  | .link target, .link other => target = other
  | .directory, .directory => True
  | _, _ => False

namespace Entry.SameKind

theorem refl (x : Entry) : x.SameKind x := by
  cases x <;> simp [SameKind]

theorem trans {x y z : Entry} (one : x.SameKind y) (two : y.SameKind z) : x.SameKind z := by
  cases x <;> cases y <;> cases z <;> simp_all [SameKind]

theorem of_directory {x : Entry} (same : Entry.directory.SameKind x) : x = .directory := by
  cases x <;> simp_all [SameKind]

theorem to_directory {x : Entry} (same : x.SameKind .directory) : x = .directory := by
  cases x <;> simp_all [SameKind]

theorem of_link {x : Entry} {target : String} (same : (Entry.link target).SameKind x) :
    x = .link target := by
  cases x <;> simp_all [SameKind]

theorem of_file {x : Entry} {content : Bytes} (same : (Entry.file content).SameKind x) :
    ∃ now, x = .file now := by
  cases x <;> simp_all [SameKind]

end Entry.SameKind

namespace FileTree

/-- Whether a tree comes from another by new entries and by other content of files. -/
structure Grows (t t' : FileTree) : Prop where
  current : t'.current = t.current
  platform : t'.platform = t.platform
  keeps : ∀ p x, t.get? p = some x → ∃ now, t'.get? p = some now ∧ x.SameKind now

namespace Grows

theorem refl (t : FileTree) : t.Grows t := ⟨rfl, rfl, fun _ x here => ⟨x, here, .refl x⟩⟩

theorem trans {t t' t'' : FileTree} (one : t.Grows t') (two : t'.Grows t'') : t.Grows t'' := by
  refine ⟨two.current.trans one.current, two.platform.trans one.platform, ?_⟩
  intro p x here
  obtain ⟨y, there, like⟩ := one.keeps p x here
  obtain ⟨z, last, alike⟩ := two.keeps p y there
  exact ⟨z, last, like.trans alike⟩

variable {t t' : FileTree} {p : Place}

theorem directory (grows : t.Grows t') (here : t.get? p = some .directory) :
    t'.get? p = some .directory := by
  obtain ⟨now, there, like⟩ := grows.keeps p _ here
  rw [there, like.of_directory]

theorem link {target : String} (grows : t.Grows t') (here : t.get? p = some (.link target)) :
    t'.get? p = some (.link target) := by
  obtain ⟨now, there, like⟩ := grows.keeps p _ here
  rw [there, like.of_link]

theorem file {content : Bytes} (grows : t.Grows t') (here : t.get? p = some (.file content)) :
    ∃ now, t'.get? p = some (.file now) := by
  obtain ⟨now, there, like⟩ := grows.keeps p _ here
  obtain ⟨content, rfl⟩ := like.of_file
  exact ⟨content, there⟩

theorem put {e : Entry} (inside : p ≠ []) (fits : ∀ x, t.get? p = some x → x.SameKind e) :
    t.Grows (t.put p e) := by
  refine ⟨rfl, rfl, ?_⟩
  intro q x here
  rw [get?_put t e inside]
  by_cases same : q = p
  · subst same
    exact ⟨e, by simp, fits x here⟩
  · exact ⟨x, by simpa [same] using here, .refl x⟩

theorem eq_directory (grows : t.Grows t') (was : t.get? p = some x)
    (now : t'.get? p = some .directory) : x = .directory := by
  obtain ⟨y, there, like⟩ := grows.keeps p x was
  cases there.symm.trans now
  exact like.to_directory

end Grows

end FileTree

namespace Way

variable {t t' : FileTree} {follow : Bool} {links : Nat} {place p : Place} {names : List String}
  {ends : Bool}

theorem grow {x : Entry} (way : Way t follow links place names ends (.found p x))
    (grows : t.Grows t') :
    ∃ now, Way t' follow links place names ends (.found p now) ∧ x.SameKind now := by
  generalize same : Destination.found p x = d at way
  induction way with
  | here =>
    cases same
    exact ⟨.directory, .here, .refl _⟩
  | above _ ih =>
    obtain ⟨now, way, like⟩ := ih same
    exact ⟨now, .above way, like⟩
  | free => exact nomatch same
  | directory valid entry _ ih =>
    obtain ⟨now, way, like⟩ := ih same
    exact ⟨now, .directory valid (grows.directory entry) way, like⟩
  | file valid entry =>
    cases same
    obtain ⟨content, there⟩ := grows.file entry
    exact ⟨.file content, .file valid there, trivial⟩
  | link valid entry kept =>
    cases same
    exact ⟨.link _, .link valid (grows.link entry) kept, rfl⟩
  | through valid entry followed _ ih =>
    obtain ⟨now, way, like⟩ := ih same
    exact ⟨now, .through valid (grows.link entry) followed way, like⟩

theorem grow_directory (way : Way t follow links place names ends (.found p .directory))
    (grows : t.Grows t') : Way t' follow links place names ends (.found p .directory) := by
  obtain ⟨now, way, like⟩ := way.grow grows
  exact like.of_directory ▸ way

theorem put_directory (way : Way t follow links place names ends (.free p)) :
    Way (t.put p .directory) follow links place names ends (.found p .directory) := by
  obtain ⟨inside, none⟩ := way.none_of_free
  have grows : t.Grows (t.put p .directory) := .put inside fun x here => by simp [none] at here
  have entry : (t.put p .directory).get? p = some .directory := by simp [t.get?_put _ inside]
  clear none inside
  generalize same : Destination.free p = d at way
  induction way with
  | here | file | link => exact nomatch same
  | above _ ih => exact .above (ih same)
  | free valid =>
    cases same
    exact .directory valid entry .here
  | directory valid here _ ih => exact .directory valid (grows.directory here) (ih same)
  | through valid here followed _ ih =>
    exact .through valid (grows.link here) followed (ih same)

/-- Where a way that led to a free place leads to a file put there, it leads to that file. A link at
its end may ask for a directory; then it leads nowhere. -/
theorem eq_of_put_file (way : Way t follow links place names ends (.free p)) {content : Bytes}
    {d : Destination} (now : Way (t.put p (.file content)) follow links place names ends d) :
    d = .found p (.file content) := by
  obtain ⟨inside, none⟩ := way.none_of_free
  have grows : t.Grows (t.put p (.file content)) :=
    .put inside fun x here => by simp [none] at here
  have entry : (t.put p (.file content)).get? p = some (.file content) := by
    simp [t.get?_put _ inside]
  clear none inside
  generalize same : Destination.free p = target at way
  -- Up to the free place both ways take the same steps: what stood on the way still stands there.
  induction way with
  | here | file | link => exact nomatch same
  | above _ ih =>
    cases now with
    | above next => exact ih next same
    | free valid | file valid | link valid | directory valid | through valid =>
      exact absurd rfl valid.1
  | free valid =>
    cases same
    cases now with
    | above => exact absurd rfl valid.1
    | free _ here | directory _ here | link _ here | through _ here => simp [entry] at here
    | file _ here => simp_all
  | directory valid here _ ih =>
    have stays := grows.directory here
    cases now with
    | above => exact absurd rfl valid.1
    | free _ here | file _ here | link _ here | through _ here => simp [stays] at here
    | directory _ _ next => exact ih next same
  | through valid here _ _ ih =>
    have stays := grows.link here
    cases now with
    | above => exact absurd rfl valid.1
    | free _ here | file _ here | directory _ here => simp [stays] at here
    | link _ _ kept => simp_all
    | through _ here _ next =>
      obtain rfl : _ = _ := by simpa [stays] using here
      exact ih next same

end Way

end PluginBuild.Files
