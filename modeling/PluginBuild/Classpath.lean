import PluginBuild.Host
import PluginBuild.Json.Shown
import PluginBuild.Workspace

/-!
The classpath of a build: the boot locations, the locations that the running program has loaded, and
further entries, in this order. A location is a path or a file URL.
-/

namespace PluginBuild

open PluginBuild.Files PluginBuild.Text

structure ExecutionContext where
  boot : Option (List String)
  loaded : Option (List Json.Value)

structure Interpreter where
  directories : List (String × Json.Value)
  isFrozen : Bool
  searchPath : Json.Value

def Interpreter.bootLocations (i : Interpreter) : List String :=
  ["stdlib", "platstdlib"].foldl (fun found key =>
    match i.directories.lookup key with
    | some (.string s) => if s = "" ∨ found.contains s then found else found ++ [s]
    | _ => found) []

def Interpreter.context (i : Interpreter) : ExecutionContext :=
  let boot := i.bootLocations
  ⟨if i.isFrozen ∨ boot.isEmpty then none else some boot,
    match i.searchPath with
    | .array locations => some locations
    | _ => none⟩

structure Url where
  scheme : String
  host : String
  path : String

def isSchemeChar (c : Char) : Bool := c.isAlphanum || c == '+' || c == '-' || c == '.'

def splitScheme (s : List Char) : String × List Char :=
  let before := s.takeWhile (· != ':')
  match before, s.drop before.length with
  | first :: _, ':' :: rest =>
    if first.isAlpha && before.all isSchemeChar then
      (String.ofList (before.map Char.toLower), rest)
    else ("", s)
  | _, _ => ("", s)

def isDroppedInUrl (c : Char) : Bool := c == '\t' || c == '\n' || c == '\r'

/-- The parts of a location. The host stands between two slashes and the path; what follows a question
mark or a number sign is left out. -/
def Url.parts (s : String) : Url :=
  let text := (s.toList.dropWhile (·.toNat ≤ 32)).filter (!isDroppedInUrl ·)
  let (scheme, rest) := splitScheme text
  let endsHost (c : Char) : Bool := c == '/' || c == '?' || c == '#'
  let (host, rest) := match rest with
    | '/' :: '/' :: more => (more.takeWhile (!endsHost ·), more.dropWhile (!endsHost ·))
    | _ => ([], rest)
  ⟨scheme, String.ofList host, String.ofList (rest.takeWhile fun c => c != '#' && c != '?')⟩

def Url.ofString (s : String) : Except ClasspathError Url :=
  match hostFault? (Url.parts s).host.toList with
  | some e => .error e
  | none => .ok (Url.parts s)

def unescapePercent : List Char → Bytes
  | [] => []
  | '%' :: a :: b :: rest =>
    match hexDigit? a, hexDigit? b with
    | some a, some b => UInt8.ofNat (a * 16 + b) :: unescapePercent rest
    | _, _ => 0x25 :: unescapePercent (a :: b :: rest)
  | c :: rest => UInt8.ofNat c.toNat :: unescapePercent rest

/-- A text with its escapes read as UTF-8. A stretch of ASCII characters is read at a time. -/
def unquotePercent (text : List Char) : String :=
  let isAscii (c : Char) : Bool := c.toNat < 128
  let runs := text.splitBy fun a b => isAscii a == isAscii b
  String.join (runs.map fun run =>
    if run.all isAscii then decodeUtf8Lossy (unescapePercent run) else String.ofList run)

/-- Where the running program has loaded something from: a path, a text that names one, or something else. -/
inductive Location where
  | path (p : Path)
  | text (s : String)
  | other (shown : String)

def Location.ofValue : Json.Value → Location
  | .string s => .text s
  | value => .other value.shown

/-- The path that a text names which has been taken apart. A scheme of one letter is the name of a drive. -/
def Url.toPath (location : String) (url : Url) : Except ClasspathError Path :=
  if url.scheme = "file" then
    if url.host = "" ∨ url.host = "localhost" then
      .ok (Path.ofString (unquotePercent url.path.toList))
    else .error (.invalid location)
  else if 1 < url.scheme.length then .error (.invalid location)
  else .ok (Path.ofString location)

/-- The path at a location. An empty text is the current directory. -/
def Location.toPath (here : Except FileError Place) : Location → Except ClasspathError Path
  | .path p => .ok p
  | .other shown => .error (.notAPath shown)
  | .text location =>
    if location = "" then (here.map (⟨.root, ·⟩)).mapError .nowhere
    else Url.ofString location >>= Url.toPath location

def pathOfLocation (here : Except FileError Place) (value : Json.Value) : Except ClasspathError Path :=
  (Location.ofValue value).toPath here

def entriesFrom (boot : Option (List String)) (loaded : Option (List Location)) (extra : List Path)
    (here : Except FileError Place) : Except ClasspathError (List Path) :=
  match loaded with
  | none => .error .unresolved
  | some locations => (locations.mapM (Location.toPath here)).map fun paths =>
    (boot.getD []).map Path.ofString ++ paths ++ extra

def warnOfBoot (boot : Option (List String)) : Build Unit :=
  if boot.isSome then pure ()
  else Build.record .warning "Boot class path is not supported, must be supplied on the command line"

def gatherClasspath (boot : Option (List String)) (loaded : Option (List Location)) (extra : List Path) :
    Build (List Path) := do
  warnOfBoot boot
  match entriesFrom boot loaded extra (← get).files.here with
  | .error e => throw (.classpath e)
  | .ok entries => return entries

def assembleClasspath (c : ExecutionContext) (extra : List Path) : Build (List Path) :=
  gatherClasspath c.boot (c.loaded.map (·.map Location.ofValue)) extra

def splitClasspath (s : String) : List Path :=
  ((split ':' s).filter (· != "")).map Path.ofString

end PluginBuild
