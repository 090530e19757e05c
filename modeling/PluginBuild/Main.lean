import PluginBuild.CommandLine.Run
import PluginBuild.Script.Codecs
import PluginBuild.Template.Catalogue

/-!
The program. It takes in the files below the current directory and below every absolute path that
the command line names, runs the command line on them, and writes the files that came new. It has no
backend for code: a compiled file that it writes ends with its header.
-/

namespace PluginBuild

open PluginBuild.Files PluginBuild.Text

def maxDirectoryDepth : Nat := 64

def placeOf (path : String) : Place := (Route.ofString path).names

def readEntries : Nat → String → IO (List (Place × Entry))
  | 0, _ => return []
  | depth + 1, directory => do
    let mut found := []
    for entry in ← (← IO.FS.realPath directory).readDir do
      let path := directory ++ "/" ++ entry.fileName
      try
        if ← entry.path.isDir then
          found := (placeOf path, .directory) :: (← readEntries depth path) ++ found
        else
          let content ← IO.FS.readBinFile path
          found := (placeOf path, .file content.toList) :: found
      catch _ => pure ()
    return found

def readPlace (path : String) : IO (List (Place × Entry)) := do
  let names := placeOf path
  let above := (List.range names.length).map fun n => (names.take (n + 1), Entry.directory)
  try
    return above ++ (← readEntries maxDirectoryDepth path)
  catch _ => return []

def locations (name : String) : IO (List String) := do
  return (split ':' ((← IO.getEnv name).getD "")).filter (· != "")

def writeEntry (place : Place) : Entry → IO Unit
  | .directory => IO.FS.createDirAll ("/" ++ join "/" place)
  | .file content => IO.FS.writeBinFile ("/" ++ join "/" place) ⟨content.toArray⟩
  | .link _ => return

end PluginBuild

open PluginBuild PluginBuild.Files PluginBuild.Text

def main (line : List String) : IO UInt32 := do
  let current := toString (← IO.currentDir)
  let boot ← locations "PLUGIN_BUILD_BOOT"
  let loaded ← locations "PLUGIN_BUILD_PATH"
  let paths := current :: (line ++ boot ++ loaded).filter (startsWith · "/")
  let entries := (← paths.mapM readPlace).flatten
  let files : FileTree := entries.foldl (fun t (place, entry) => t.put place entry)
    ⟨[], placeOf current, .plain⟩
  let interpreter : Interpreter :=
    ⟨boot.head?.toList.map (("stdlib", .string ·)), false, .array (loaded.map .string)⟩
  let toolchain := scriptToolchain fun _ _ => []
  let (ending, w) := CommandLine.run line catalogue interpreter toolchain ⟨files, [], [], [], []⟩
  for (place, entry) in w.files.entries.reverse do
    if files.get? place != some entry then writeEntry place entry
  for record in w.log do
    IO.eprintln s!"[{record.level.name}] {record.message}"
  if let some e := ending.escaped then IO.eprintln e.message
  IO.print ending.output
  return UInt32.ofNat ending.exitCode
