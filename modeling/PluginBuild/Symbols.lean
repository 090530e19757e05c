import PluginBuild.Failure

/-!
Which top-level modules a classpath provides. Entries are searched in order. The names in an archive
are read once; from then on the archive is known by its path, even if the file is gone or the archive
has been closed.
-/

namespace PluginBuild

open PluginBuild.Files PluginBuild.Text

/-- An archive that has been opened: the modules in it, and whether it was closed since. -/
structure OpenArchive where
  modules : List String
  isClosed : Bool
  deriving DecidableEq, Repr

structure SymbolIndex where
  entries : List Path
  archives : List (Path × OpenArchive)

def moduleSuffixes : List String :=
  [".py", ".pyc", ".cpython-311-x86_64-linux-gnu.so", ".abi3.so", ".so"]

def builtinModules : List String :=
  ["_abc", "_ast", "_bisect", "_blake2", "_codecs", "_collections", "_csv", "_datetime",
    "_elementtree", "_functools", "_heapq", "_imp", "_io", "_locale", "_md5", "_opcode",
    "_operator", "_pickle", "_posixsubprocess", "_random", "_sha1", "_sha256", "_sha3", "_sha512",
    "_signal", "_socket", "_sre", "_stat", "_statistics", "_string", "_struct", "_symtable",
    "_thread", "_tokenize", "_tracemalloc", "_warnings", "_weakref", "array", "atexit",
    "binascii", "builtins", "cmath", "errno", "faulthandler", "fcntl", "gc", "grp", "itertools",
    "marshal", "math", "posix", "pwd", "pyexpat", "select", "spwd", "sys", "syslog", "time",
    "unicodedata", "xxsubtype", "zlib"]

def topModule (module : String) : String := (splitFirst '.' module).1

/-- The module that a member at the top of an archive holds, or the directory that it is in. The first
ending that fits is cut off. -/
def moduleOfMember? (suffixes : List String) (member : String) : Option String :=
  match splitFirst '/' member with
  | (directory, some _) => some directory
  | (_, none) =>
    (suffixes.find? (endsWith member)).map fun suffix =>
      String.ofList (member.toList.take (member.length - suffix.length))

def modulesOfMembers (suffixes members : List String) : List String :=
  members.filterMap (moduleOfMember? suffixes)

def directoryProvides (suffixes : List String) (files : FileTree) (entry : Path) (name : String) :
    Except FileError Bool := do
  if ← files.isDirectory (entry.child name).text then return true
  suffixes.anyM fun suffix => files.isFile (entry.child (name ++ suffix)).text

abbrev Lookup : Type → Type := EStateM Failure (List (Path × OpenArchive))

def Lookup.ask {α : Type} : Except FileError α → Lookup α
  | .ok a => pure a
  | .error e => throw (.file e)

def archiveFailure (entry : Path) (e : Archive.ArchiveError) : Failure :=
  match e with
  | .unsupportedVersion _ | .undecodableName _ => .archive e
  | _ => .toolchain (.brokenArchive entry e)

def Lookup.archiveModules (files : FileTree) (entry : Path) : Lookup (List String) := do
  match (← get).lookup entry with
  | some archive => return archive.modules
  | none =>
    match Archive.memberNames (← Lookup.ask (files.read entry.text)) with
    | .error e => throw (archiveFailure entry e)
    | .ok members =>
      let modules := modulesOfMembers moduleSuffixes members
      modify ((entry, ⟨modules, false⟩) :: ·)
      return modules

def Lookup.isArchive (files : FileTree) (entry : Path) : Lookup Bool := do
  if ((← get).lookup entry).isSome then return true
  if ← Lookup.ask (files.isFile entry.text) then
    match Archive.isArchive (← Lookup.ask (files.read entry.text)) with
    | .error e => throw (.archive e)
    | .ok found => return found
  return false

def Lookup.provides (files : FileTree) (entry : Path) (name : String) : Lookup Bool := do
  if ← Lookup.ask (files.isDirectory entry.text) then
    Lookup.ask (directoryProvides moduleSuffixes files entry name)
  else if ← Lookup.isArchive files entry then
    return (← Lookup.archiveModules files entry).contains name
  else return false

def Lookup.locate (files : FileTree) (name : String) : List Path → Lookup (Option Path)
  | [] => pure none
  | entry :: rest => do
    if ← Lookup.provides files entry name then return some entry
    Lookup.locate files name rest

namespace SymbolIndex

def ofEntries (entries : List Path) : SymbolIndex := ⟨entries, []⟩

/-- Closes the archives. The index keeps what it has read of them. -/
def release (index : SymbolIndex) : SymbolIndex :=
  { index with archives := index.archives.map fun (entry, archive) =>
      (entry, { archive with isClosed := true }) }

def run {α : Type} (index : SymbolIndex) (lookup : Lookup α) : Except Failure α × SymbolIndex :=
  match lookup index.archives with
  | .ok a archives => (.ok a, { index with archives })
  | .error e archives => (.error e, { index with archives })

def locate (index : SymbolIndex) (files : FileTree) (module : String) :
    Except Failure (Option Path) × SymbolIndex :=
  index.run (Lookup.locate files (topModule module) index.entries)

def resolves (index : SymbolIndex) (files : FileTree) (module : String) :
    Except Failure Bool × SymbolIndex :=
  let top := topModule module
  if builtinModules.contains top then (.ok true, index)
  else match index.locate files top with
    | (.ok entry, index) => (.ok entry.isSome, index)
    | (.error e, index) => (.error e, index)

end SymbolIndex

end PluginBuild
