import PluginBuild.Workspace

/-!
Finding scripts. A directory is listed when it is reached; its files come before those of the
directories inside it, in the order of the listing. Links to directories are not followed. Each
script is visited before the walk goes on, so that a visit may change what is still ahead.
-/

namespace PluginBuild

open PluginBuild.Files PluginBuild.Text

def defaultDepth : Nat := 1024

def defaultSuffix : String := ".plugin.py"

def Path.partCount (p : Path) : Nat := p.parts.length + if p.isAbsolute then 1 else 0

structure Search where
  root : Path
  suffix : String
  depth : Nat
  deriving DecidableEq, Repr

namespace Search

/-- How far a directory is below the first one, going by the parts of their paths. -/
def level (s : Search) (directory : String) : Int :=
  ((Path.ofString directory).partCount : Int) - s.root.partCount

/-- The files of a directory that are visited. Those in the first directory are at depth one. -/
def visited (s : Search) (directory : String) (listing : FileTree.Listing) : List Path :=
  if s.level directory + 1 ≤ s.depth then
    (listing.others.filter (endsWith · s.suffix)).map (Path.ofString directory).child
  else []

def entered (s : Search) (directory : String) (listing : FileTree.Listing) : List String :=
  if s.depth ≤ s.level directory + 1 then [] else listing.directories

section
variable {m : Type → Type} [Monad m] (list : String → m FileTree.Listing) (isLink : String → m Bool)
  (refuse : m Unit) (visit : Path → m Unit)

/-- Walks through a directory and those in it. A walk without room for a further call is refused where
one of these would be looked at. -/
def walk (s : Search) : (room : Nat) → (directory : String) → m Unit
  | 0, directory => do
    let listing ← list directory
    (s.visited directory listing).forM visit
    if !(s.entered directory listing).isEmpty then refuse
  | room + 1, directory => do
    let listing ← list directory
    (s.visited directory listing).forM visit
    (s.entered directory listing).forM fun name => do
      let next := inside directory name
      if !(← isLink next) then s.walk room next

end

def find (s : Search) (files : FileTree) : Except Failure (List Path) :=
  let found : StateT (List Path) (Except Failure) Unit :=
    s.walk (fun path => ((files.list path).mapError .file : Except Failure _))
      (fun path => pure (files.isLink path)) (throw Failure.tooNested : Except Failure Unit)
      (fun path => modify (· ++ [path])) files.platform.room s.root.text
  (found.run []).map (·.2)

def visit {σ : Type} (s : Search) (action : Path → StateT σ Build Unit) : StateT σ Build Unit := do
  let room := (← (getThe Workspace : Build _)).files.platform.room
  s.walk (fun path => (Build.ask (·.list path) : Build _))
    (fun path => return (← (getThe Workspace : Build _)).files.isLink path)
    (throw Failure.tooNested : Build Unit) action room s.root.text

end Search

end PluginBuild
