import PluginBuild.Platform

/-!
A tree of files. Every entry has a place, the names that lead to it from the root; the root itself
is a directory without an entry. Entries are kept by place, so that a change at one place leaves all
others as they are.
-/

namespace PluginBuild.Files

open PluginBuild.Text

/-- The names from the root to an entry. -/
abbrev Place := List String

inductive Entry where
  | file (content : Bytes)
  | link (target : String)
  | directory
  deriving DecidableEq, Repr

/-- Entries by place, the directory that relative paths start from, and what they are kept on. -/
structure FileTree where
  entries : List (Place × Entry)
  current : Place
  platform : Platform

namespace FileTree

def get? (t : FileTree) (p : Place) : Option Entry :=
  if p = [] then some .directory else t.entries.lookup p

def put (t : FileTree) (p : Place) (e : Entry) : FileTree :=
  { t with entries := (p, e) :: t.entries.filter (·.1 != p) }

def remove (t : FileTree) (p : Place) : FileTree :=
  { t with entries := t.entries.filter fun (q, _) => !p.isPrefixOf q }

def nameIn? (p q : Place) : Option String :=
  if q.dropLast = p then q.getLast? else none

def insertName (t : FileTree) (p : Place) (name : String) : List String → List String
  | [] => [name]
  | first :: rest =>
    if t.platform.lists p name first then name :: first :: rest
    else first :: t.insertName p name rest

def names (t : FileTree) (p : Place) : List String :=
  (t.entries.filterMap fun (q, _) => nameIn? p q).foldr (t.insertName p) []

@[simp] theorem get?_nil (t : FileTree) : t.get? [] = some .directory := rfl

theorem lookup_filter_ne (entries : List (Place × Entry)) {p q : Place} (differ : q ≠ p) :
    (entries.filter (·.1 != p)).lookup q = entries.lookup q := by
  induction entries with
  | nil => rfl
  | cons x xs ih =>
    obtain ⟨r, e⟩ := x
    by_cases same : r = p
    · subst same
      have other : (q == r) = false := by simpa using differ
      simp [List.lookup_cons, ih, other]
    · simp [same, List.lookup_cons, ih]

theorem get?_put (t : FileTree) {p : Place} (e : Entry) (inside : p ≠ []) (q : Place) :
    (t.put p e).get? q = if q = p then some e else t.get? q := by
  unfold get? put
  by_cases same : q = p
  · simp [same, inside]
  · have different : (q == p) = false := by simpa using same
    simp only [same, if_false, List.lookup_cons, different, lookup_filter_ne _ same]

end FileTree

end PluginBuild.Files
