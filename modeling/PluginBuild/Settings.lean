import PluginBuild.Discovery
import PluginBuild.Json.Comments
import PluginBuild.Json.Reader
import PluginBuild.Text.Lines
import PluginBuild.Text.Upper

/-!
Settings of a build. They come from a file of members with comments allowed, and may be overridden
one by one; both ways they are checked.
-/

namespace PluginBuild

open PluginBuild.Files PluginBuild.Text

inductive SettingsError where
  | file (e : FileError)
  | undecodable (e : DecodeError)
  | malformed (path : Path) (message : String)
  | tooManyDigits (digits : Nat)
  | tooNested (isObject : Bool)
  | notAnObject
  | unknown (names : List String)
  | unexpected (name : String)
  | badSuffix
  | depthNotInteger
  | depthNegative
  | badTemplate
  | badLogLevel
  deriving DecidableEq, Repr

def levelNames : List String := (LogLevel.all.map (·.name)).mergeSort fun a b => a ≤ b

def SettingsError.message : SettingsError → String
  | .file e => e.message
  | .undecodable e => e.message
  | .malformed path message => s!"Invalid config file {path}: {message}"
  | .tooManyDigits digits =>
    s!"Exceeds the limit ({Json.maxDigits} digits) for integer string conversion: " ++
      s!"value has {digits} digits; use sys.set_int_max_str_digits() to increase the limit"
  | .tooNested isObject =>
    let kind := if isObject then "object" else "array"
    s!"maximum recursion depth exceeded while decoding a JSON {kind} from a unicode string"
  | .notAnObject => "Top-level config must be an object"
  | .unknown names => "Unknown settings: " ++ join ", " names
  | .unexpected name =>
    s!"CompilerSettings.__init__() got an unexpected keyword argument '{name}'"
  | .badSuffix => "settings.script_suffix must be a non-empty string"
  | .depthNotInteger => "settings.max_search_depth must be an integer"
  | .depthNegative => "settings.max_search_depth cannot be negative"
  | .badTemplate => "settings.script_template must look like 'module:Class'"
  | .badLogLevel =>
    "settings.log_level must be one of [" ++ join ", " (levelNames.map quoted) ++ "]"

def membersOfText (path : Path) (text : List Char) :
    Except SettingsError (List (String × Json.Value)) :=
  let text := Json.strip text
  match Json.parse text with
  | .error (.fault f ahead) => .error (.malformed path (Json.faultMessage text f ahead))
  | .error (.tooManyDigits digits) => .error (.tooManyDigits digits)
  | .error (.tooNested isObject) => .error (.tooNested isObject)
  | .ok (.object members) => .ok members
  | .ok _ => .error .notAnObject

def membersOfBytes (path : Path) (bytes : Bytes) :
    Except SettingsError (List (String × Json.Value)) :=
  match decodeUtf8 bytes with
  | .error e => .error (.undecodable e)
  | .ok s => membersOfText path (normalizeNewlines s.toList)

def membersOfFile (files : FileTree) (path : Path) :
    Except SettingsError (List (String × Json.Value)) :=
  match files.read path.text with
  | .error e => .error (.file e)
  | .ok bytes => membersOfBytes path bytes

structure Settings where
  suffix : String
  depth : Nat
  template : String
  logLevel : String
  deriving DecidableEq, Repr

namespace Settings

def default : Settings := ⟨defaultSuffix, defaultDepth, "toolchain.template:PluginScript", "INFO"⟩

def names : List String := ["script_suffix", "max_search_depth", "script_template", "log_level"]

def members (s : Settings) : List (String × Json.Value) :=
  [("script_suffix", .string s.suffix), ("max_search_depth", .int s.depth),
    ("script_template", .string s.template), ("log_level", .string s.logLevel)]

def levelOf? (name : String) : Option LogLevel := LogLevel.ofName? (upperText name)

def level (s : Settings) : LogLevel := (levelOf? s.logLevel).getD .info

def textOf (accepts : String → Bool) (refusal : SettingsError) : Json.Value → Except SettingsError String
  | .string s => if accepts s then .ok s else .error refusal
  | _ => .error refusal

def depthOf : Json.Value → Except SettingsError Nat
  | .int n => if n < 0 then .error .depthNegative else .ok n.toNat
  | _ => .error .depthNotInteger

def check (suffix depth template logLevel : Json.Value) : Except SettingsError Settings := do
  let suffix ← textOf (· != "") .badSuffix suffix
  let depth ← depthOf depth
  let template ← textOf (·.toList.contains ':') .badTemplate template
  let logLevel ← textOf (fun s => (levelOf? s).isSome) .badLogLevel logLevel
  return ⟨suffix, depth, template, logLevel⟩

def change (s : Settings) (changes : List (String × Json.Value)) : Except SettingsError Settings :=
  let value (key : String) : Json.Value :=
    ((changes.lookup key).orElse fun _ => s.members.lookup key).getD .null
  check (value "script_suffix") (value "max_search_depth") (value "script_template")
    (value "log_level")

def ofMembers (members : List (String × Json.Value)) : Except SettingsError Settings :=
  let unknown := (members.map (·.1)).filter (!names.contains ·)
  if unknown.isEmpty then default.change members
  else .error (.unknown (unknown.mergeSort fun a b => a ≤ b))

def load (files : FileTree) : Option Path → Except SettingsError Settings
  | none => .ok default
  | some path => do ofMembers (← membersOfFile files path)

def given (changes : List (String × Json.Value)) : List (String × Json.Value) :=
  changes.filter fun (_, v) => !v.isNull

def override (s : Settings) (changes : List (String × Json.Value)) :
    Except SettingsError Settings :=
  let given := given changes
  match given.find? fun (key, _) => !names.contains key with
  | some (key, _) => .error (.unexpected key)
  | none => s.change given

end Settings

end PluginBuild
