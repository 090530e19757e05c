import PluginBuild.Batch
import PluginBuild.CommandLine.Usage
import PluginBuild.Decimal.Integer
import PluginBuild.Settings
import PluginBuild.Template.Load

/-!
Builds that are asked for on the command line. Settings come from a file and are overridden by
options; every failure of the build itself is logged, and the exit code tells how it went.
-/

namespace PluginBuild.CommandLine

open PluginBuild.Files PluginBuild.Text

inductive RunError where
  | usage (e : UsageError)
  | settings (e : SettingsError)
  | template (e : TemplateError)
  | build (e : Failure)
  deriving DecidableEq, Repr

def RunError.message : RunError → String
  | .usage e => e.message
  | .settings e => e.message
  | .template e => e.message
  | .build e => e.message

/-- Whether a run that fails this way ends in good order, with a record of the failure. -/
def RunError.isForeseen : RunError → Bool
  | .usage _ => true
  | .settings (.tooNested _) | .settings (.unexpected _) => false
  | .settings _ => true
  | .template (.noImport (.relative _)) | .template (.missingMember _) => false
  | .template (.noImport (.raised _ isForeseen)) => isForeseen
  | .template (.noImport (.exit _ _)) => false
  | .template _ => true
  | .build (.file _) | .build (.compilation _) | .build (.classpath _) => true
  | .build (.archive (.undecodableName _)) | .build (.encoding _) => true
  | .build (.assembly (.unreadable .nullCharacter)) => true
  | .build _ => false

structure Request where
  input : Path
  output : Path
  manifest : Path
  classpath : String
  config : Option Path
  suffix : Option String
  depth : Option Nat
  template : Option String
  isVerbose : Bool

inductive Command where
  | help
  | build (r : Request)

/-- Checks a path against the files there are. One that leads nowhere may still be made. -/
def checkPath (files : FileTree) (owner : String) (kind : PathKind) (mustExist : Bool)
    (path : String) : Except RunError Path :=
  let bad (problem : PathProblem) : Except RunError Path :=
    .error (.usage (.badPath owner kind path problem))
  match files.locate true path, kind with
  | .error .nullCharacter, _ => .error (.build (.file .nullCharacter))
  | .ok (.found _ (.file _)), .directory => bad .isFile
  | .ok (.found _ .directory), .file => bad .isDirectory
  | .ok (.found _ _), _ => .ok (Path.ofString path)
  | _, _ => if mustExist then bad .isMissing else .ok (Path.ofString path)

def checkOptions (files : FileTree) (w : Words) (r : Request) :
    List Flag → Except RunError Request
  | [] => .ok r
  | f :: rest =>
    match w.value? f with
    | none => checkOptions files w r rest
    | some value =>
      match f with
      | .config => do
        let path ← checkPath files f.name .file true value
        checkOptions files w { r with config := some path } rest
      | .maxDepth =>
        match Decimal.integer? value with
        | none => .error (.usage (.notAnInteger f.name value))
        | some n =>
          if n < 0 then .error (.usage (.belowZero f.name n))
          else checkOptions files w { r with depth := some n.toNat } rest
      | .suffix => checkOptions files w { r with suffix := some value } rest
      | .template => checkOptions files w { r with template := some value } rest
      | .verbose => checkOptions files w { r with isVerbose := true } rest
      | .help => checkOptions files w r rest

def argument (w : Words) (place : Nat) (name : String) : Except RunError String :=
  match w.arguments[place]? with
  | some word => .ok word
  | none => .error (.usage (.argumentMissing name))

def Command.read (files : FileTree) (line : List String) : Except RunError Command := do
  let w ← (Words.read line).mapError .usage
  if (w.value? .help).isSome then return .help
  let start : Request :=
    ⟨Path.ofString "", Path.ofString "", Path.ofString "", "", none, none, none, none, false⟩
  -- Options are checked before arguments, each where it occurs first.
  let r ← checkOptions files w start (w.options.map (·.1)).eraseDups
  let directory (place : Nat) (name : String) : Except RunError Path := do
    checkPath files name .directory false (← argument w place name)
  let input ← directory 0 "INPUT_DIR"
  let output ← directory 1 "OUTPUT_DIR"
  let manifestName := "MANIFEST_PATH"
  let manifest ← checkPath files manifestName .file false (← argument w 2 manifestName)
  let classpath ← argument w 3 "CLASSPATH"
  let extra := w.arguments.drop 4
  if !extra.isEmpty then throw (.usage (.extraArguments extra))
  return .build { r with input, output, manifest, classpath }

def Request.changes (r : Request) : List (String × Json.Value) :=
  let value (s : Option String) : Json.Value := (s.map .string).getD .null
  [("script_suffix", value r.suffix),
    ("max_search_depth", (r.depth.map fun n => .int n).getD .null),
    ("script_template", value r.template),
    ("log_level", if r.isVerbose then .string LogLevel.debug.name else .null)]

def Request.settings (r : Request) (files : FileTree) : Except RunError Settings :=
  ((Settings.load files r.config).bind (·.override r.changes)).mapError .settings

def Request.run (r : Request) (s : Settings) (importer : Importer) (i : Interpreter) (t : Toolchain)
    (w : Workspace) : Except RunError (List Compiled) × Workspace :=
  match Template.load importer i s.template w with
  | .error e w => (.error (.template e), w)
  | .ok (template, i) w =>
    let batch : Batch := ⟨template, i.context, t, s.suffix, s.depth⟩
    match batch.run r.input r.output r.manifest (splitClasspath r.classpath) w with
    | .ok results w => (.ok results, w)
    | .error e w => (.error (.build e), w)

structure Ending where
  exitCode : Nat
  output : String
  escaped : Option RunError

def fail (e : RunError) (w : Workspace) : Ending × Workspace :=
  match e with
  | .usage e => (⟨2, e.report, none⟩, w)
  | .template (.noImport (.exit code output)) => (⟨code, output, none⟩, w)
  | e =>
    if e.isForeseen then
      let record : LogRecord := ⟨.error, s!"Build failed: {e.message}"⟩
      (⟨1, "", none⟩, { w with log := w.log ++ [record] })
    else (⟨1, "", some e⟩, w)

def keepFrom (level : LogLevel) (w : Workspace) : Workspace :=
  { w with log := w.log.filter fun r => level.number ≤ r.level.number }

/-- Runs a command line. Before settings are known, the log holds records from `info` on. -/
def run (line : List String) (importer : Importer) (i : Interpreter) (t : Toolchain) (w : Workspace) :
    Ending × Workspace :=
  match Command.read w.files line with
  | .error e =>
    match e with
    | .usage _ => fail e w
    | e => (⟨1, "", some e⟩, w)
  | .ok .help => (⟨0, helpText, none⟩, w)
  | .ok (.build r) =>
    match r.settings w.files with
    | .error e => fail e w
    | .ok s =>
      let (ending, w) := match r.run s importer i t w with
        | (.ok results, w) => (⟨0, s!"Compiled {results.length} plugin(s).\n", none⟩, w)
        | (.error e, w) => fail e w
      (ending, keepFrom s.level w)

end PluginBuild.CommandLine
