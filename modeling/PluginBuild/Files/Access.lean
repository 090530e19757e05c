import PluginBuild.Files.Resolve
import PluginBuild.Path
import PluginBuild.Text.Quoted

/-!
Requests to a tree of files. Each takes the path as a text, and a failure keeps that text. A path
with a null character is refused before it is looked at. Every directory can be searched, every file can
be read, and there is room for whatever is written.
-/

namespace PluginBuild.Files

open PluginBuild.Text

inductive FileError where
  | refused (reason : Errno) (path : String)
  | nullCharacter
  | noCurrentDirectory
  deriving DecidableEq, Repr

def FileError.message : FileError → String
  | .refused reason path => s!"[Errno {reason.code}] {reason.message}: {quoted path}"
  | .nullCharacter => "embedded null byte"
  | .noCurrentDirectory => s!"[Errno {Errno.noEntry.code}] {Errno.noEntry.message}"

/-- What a change comes to: the files as they are then, and why it failed if it did. What was done
before a failure stays done. -/
abbrev Change := EStateM.Result FileError FileTree Unit

namespace FileTree

def here (t : FileTree) : Except FileError Place :=
  if t.get? t.current = some .directory then .ok t.current else .error .noCurrentDirectory

def locate (t : FileTree) (follow : Bool) (path : String) : Except FileError Destination :=
  if path.toList.contains '\x00' then .error .nullCharacter
  else match t.resolve follow path with
    | .error reason => .error (.refused reason path)
    | .ok target => .ok target

def read (t : FileTree) (path : String) : Except FileError Bytes :=
  match t.locate true path with
  | .error e => .error e
  | .ok (.found _ (.file content)) => .ok content
  | .ok (.found _ _) => .error (.refused .isDirectory path)
  | .ok (.free _) => .error (.refused .noEntry path)

/-- Gives a file its content; the file is made if there is none. No file is made where the path, or
a link at its end, asks for a directory. A write is refused before it begins or comes to its end: no file
is left cut short. -/
def write (t : FileTree) (path : String) (content : Bytes) : Change :=
  match t.locate true path with
  | .error e => .error e t
  | .ok (.found _ .directory) => .error (.refused .isDirectory path) t
  | .ok (.found place _) => .ok () (t.put place (.file content))
  | .ok (.free place) =>
    let written := t.put place (.file content)
    match written.locate true path with
    | .ok (.found _ (.file _)) => .ok () written
    | _ => .error (.refused .isDirectory path) t

def make (t : FileTree) (path : String) (e : Entry) : Change :=
  match t.locate false path with
  | .error e => .error e t
  | .ok (.found _ _) => .error (.refused .exists path) t
  | .ok (.free place) => .ok () (t.put place e)

def makeDirectory (t : FileTree) (path : String) : Change := t.make path .directory

def makeLink (t : FileTree) (path target : String) : Change := t.make path (.link target)

/-- What a path leads to, or nothing if it leads nowhere. Only a path that is too long fails. -/
def status? (t : FileTree) (path : String) : Except FileError (Option Entry) :=
  match t.locate true path with
  | .ok (.found _ e) => .ok (some e)
  | .ok (.free _) => .ok none
  | .error (.refused .nameTooLong path) => .error (.refused .nameTooLong path)
  | .error _ => .ok none

def isDirectory (t : FileTree) (path : String) : Except FileError Bool :=
  (t.status? path).map fun e => e == some .directory

def isFile (t : FileTree) (path : String) : Except FileError Bool :=
  (t.status? path).map fun e => match e with
    | some (.file _) => true
    | _ => false

def isLink (t : FileTree) (path : String) : Bool :=
  match t.locate false path with
  | .ok (.found _ (.link _)) => true
  | _ => false

structure Listing where
  directories : List String
  others : List String

/-- Whether a name in a directory is listed as that of a directory. What a link leads to is found by
its path, which may be too long for that. -/
def isListedDirectory (t : FileTree) (path : String) (place : Place) (name : String) : Bool :=
  match t.get? (place ++ [name]) with
  | some .directory => true
  | some (.link _) => match t.locate true (inside path name) with
    | .ok (.found _ .directory) => true
    | _ => false
  | _ => false

def list (t : FileTree) (path : String) : Except FileError Listing :=
  match t.locate true path with
  | .error e => .error e
  | .ok (.free _) => .error (.refused .noEntry path)
  | .ok (.found place .directory) =>
    let (directories, others) := (t.names place).partition (t.isListedDirectory path place)
    .ok ⟨directories, others⟩
  | .ok (.found _ _) => .error (.refused .notDirectory path)

def ensureDirectory (t : FileTree) (p : Path) : Change :=
  match t.makeDirectory p.text with
  | .ok () t => .ok () t
  | .error (.refused .noEntry path) t => .error (.refused .noEntry path) t
  | .error .nullCharacter t => .error .nullCharacter t
  | .error e t =>
    match t.isDirectory p.text with
    | .ok true => .ok () t
    | .ok false => .error e t
    | .error e => .error e t

/-- Makes a directory and those above it unless they are there. The list holds the parts of the path
in reverse; the first failure for want of a parent leads to the parent. -/
def ensureDirectories (t : FileTree) (anchor : Anchor) : List String → Change
  | [] => t.ensureDirectory ⟨anchor, []⟩
  | part :: above =>
    let p : Path := ⟨anchor, (part :: above).reverse⟩
    match t.makeDirectory p.text with
    | .error (.refused .noEntry _) t =>
      match t.ensureDirectories anchor above with
      | .ok () t => t.ensureDirectory p
      | .error e t => .error e t
    | _ => t.ensureDirectory p

def ensurePath (t : FileTree) (p : Path) : Change :=
  t.ensureDirectories p.anchor p.parts.reverse

end FileTree

end PluginBuild.Files
