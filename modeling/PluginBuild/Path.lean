import PluginBuild.Text.Pieces

/-!
Paths as they are written, without a look at any file. Repeated separators and single dots mean
nothing; a double dot is kept, since the part before it may be a link.
-/

namespace PluginBuild

open PluginBuild.Text

/-- What a path starts from. Exactly two slashes are kept apart from one. -/
inductive Anchor where
  | here
  | root
  | doubleRoot
  deriving DecidableEq, Repr, Inhabited

def Anchor.text : Anchor → String
  | .here => ""
  | .root => "/"
  | .doubleRoot => "//"

structure Path where
  anchor : Anchor
  parts : List String
  deriving DecidableEq, Repr, Inhabited

namespace Path

def anchorOf : List Char → Anchor
  | '/' :: '/' :: '/' :: _ => .root
  | '/' :: '/' :: _ => .doubleRoot
  | '/' :: _ => .root
  | _ => .here

def isPart (piece : String) : Bool := piece != "" && piece != "."

def ofString (s : String) : Path := ⟨anchorOf s.toList, (split '/' s).filter isPart⟩

def text (p : Path) : String :=
  if p.anchor = .here ∧ p.parts = [] then "." else p.anchor.text ++ join "/" p.parts

instance : ToString Path := ⟨text⟩

def isAbsolute (p : Path) : Bool := p.anchor != .here

def resolve (base p : Path) : Path :=
  if p.isAbsolute then p else ⟨base.anchor, base.parts ++ p.parts⟩

def child (base : Path) (s : String) : Path := base.resolve (ofString s)

def name (p : Path) : String := p.parts.getLast?.getD ""

def parent (p : Path) : Path := ⟨p.anchor, p.parts.dropLast⟩

/-- A name without what follows its last dot. A dot at either end does not count. -/
def stemOf (name : List Char) : List Char :=
  let ending := name.reverse.takeWhile (· != '.')
  if ending.length + 1 < name.length ∧ ending ≠ [] then name.take (name.length - ending.length - 1)
  else name

def stem (p : Path) : String := String.ofList (stemOf p.name.toList)

end Path

def inside (directory name : String) : String :=
  if endsWith directory "/" then directory ++ name else directory ++ "/" ++ name

end PluginBuild
