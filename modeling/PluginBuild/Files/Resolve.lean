import PluginBuild.Files.Tree
import PluginBuild.Text.Pieces

/-!
From the text of a path to a place in a tree of files. Names are followed one after the other; a
link is replaced by its target, as often as forty times.
-/

namespace PluginBuild.Files

open PluginBuild.Text

inductive Errno where
  | noEntry
  | exists
  | notDirectory
  | isDirectory
  | nameTooLong
  | tooManyLinks
  deriving DecidableEq, Repr

def Errno.code : Errno → Nat
  | .noEntry => 2
  | .exists => 17
  | .notDirectory => 20
  | .isDirectory => 21
  | .nameTooLong => 36
  | .tooManyLinks => 40

def Errno.message : Errno → String
  | .noEntry => "No such file or directory"
  | .exists => "File exists"
  | .notDirectory => "Not a directory"
  | .isDirectory => "Is a directory"
  | .nameTooLong => "File name too long"
  | .tooManyLinks => "Too many levels of symbolic links"

/-- Where a path leads: to an entry, or to a free place in an existing directory. -/
inductive Destination where
  | found (place : Place) (e : Entry)
  | free (place : Place)
  deriving Repr

def maxNameLength : Nat := 255

def maxPathLength : Nat := 4095

def maxLinks : Nat := 40

structure Route where
  names : List String
  endsInDirectory : Bool

def Route.ofString (s : String) : Route :=
  let all := split '/' s
  let last := all.getLast?.getD ""
  ⟨all.filter fun name => name != "" && name != ".", last == "" || last == "."⟩

/-- Follows names from a directory on, as far as a link that must be followed; `onLink` says where
the way goes from there, by the directory of the link, its target, and the names behind it. A link
at the end is followed if `follow` says so or if a directory is asked for. -/
def FileTree.followNames (t : FileTree) (follow endsInDirectory : Bool)
    (onLink : Place → String → List String → Except Errno Destination) :
    Place → List String → Except Errno Destination
  | place, [] => .ok (.found place .directory)
  | place, name :: rest =>
    if name = ".." then t.followNames follow endsInDirectory onLink place.dropLast rest
    else if maxNameLength < name.utf8ByteSize then .error .nameTooLong
    else
      let next := place ++ [name]
      match t.get? next with
      | none => if rest = [] then .ok (.free next) else .error .noEntry
      | some .directory => t.followNames follow endsInDirectory onLink next rest
      | some (.file content) =>
        if rest = [] ∧ !endsInDirectory then .ok (.found next (.file content))
        else .error .notDirectory
      | some (.link target) =>
        if rest = [] ∧ !follow ∧ !endsInDirectory then .ok (.found next (.link target))
        else onLink place target rest

def FileTree.follow (t : FileTree) (follow : Bool) :
    (links : Nat) → (place : Place) → (names : List String) → (endsInDirectory : Bool) →
      Except Errno Destination
  | 0, place, names, endsInDirectory =>
    t.followNames follow endsInDirectory (fun _ _ _ => .error .tooManyLinks) place names
  | links + 1, place, names, endsInDirectory =>
    t.followNames follow endsInDirectory (fun place target rest =>
      let route := Route.ofString target
      t.follow follow links (if startsWith target "/" then [] else place) (route.names ++ rest)
        (endsInDirectory || (rest.isEmpty && route.endsInDirectory))) place names

def FileTree.resolve (t : FileTree) (follow : Bool) (path : String) : Except Errno Destination :=
  if path = "" then .error .noEntry
  else if maxPathLength < path.utf8ByteSize then .error .nameTooLong
  else
    let route := Route.ofString path
    t.follow follow maxLinks (if startsWith path "/" then [] else t.current) route.names
      route.endsInDirectory

end PluginBuild.Files
