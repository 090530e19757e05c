import PluginBuild.Files.Access
import PluginBuild.Text.Similar

/-!
The words of a command line: options with their values, and arguments. A word that begins with a
hyphen is an option wherever it stands, up to a word of two hyphens; a hyphen alone is an argument.
-/

namespace PluginBuild.CommandLine

open PluginBuild.Files PluginBuild.Text

inductive Flag where
  | config
  | suffix
  | maxDepth
  | template
  | verbose
  | help
  deriving DecidableEq, Repr

def Flag.all : List Flag := [.config, .suffix, .maxDepth, .template, .verbose, .help]

def Flag.name : Flag → String
  | .config => "--config"
  | .suffix => "--suffix"
  | .maxDepth => "--max-depth"
  | .template => "--template"
  | .verbose => "--verbose"
  | .help => "--help"

def Flag.ofLetter? : Char → Option Flag
  | 'v' => some .verbose
  | 'h' => some .help
  | _ => none

def Flag.ofName? (name : String) : Option Flag := Flag.all.find? (·.name == name)

def Flag.hasValue : Flag → Bool
  | .verbose | .help => false
  | _ => true

inductive PathKind where
  | file
  | directory
  deriving DecidableEq, Repr

def PathKind.title : PathKind → String
  | .file => "File"
  | .directory => "Directory"

inductive PathProblem where
  | isMissing
  | isFile
  | isDirectory
  deriving DecidableEq, Repr

def PathProblem.words : PathProblem → String
  | .isMissing => "does not exist"
  | .isFile => "is a file"
  | .isDirectory => "is a directory"

/-- What is wrong with a command line. `owner` names the option or argument that has a bad value. -/
inductive UsageError where
  | noSuchOption (name : String) (alike : List String)
  | valueMissing (name : String)
  | valueUnwanted (name : String)
  | argumentMissing (name : String)
  | badPath (owner : String) (kind : PathKind) (path : String) (problem : PathProblem)
  | notAnInteger (owner text : String)
  | belowZero (owner : String) (n : Int)
  | extraArguments (words : List String)
  deriving DecidableEq, Repr

def UsageError.message : UsageError → String
  | .noSuchOption name alike =>
    s!"No such option: {name}" ++
      match alike with
      | [] => ""
      | [other] => s!" Did you mean {other}?"
      | others => " (Possible options: " ++ join ", " others ++ ")"
  | .valueMissing name => s!"Option {quoted name} requires an argument."
  | .valueUnwanted name => s!"Option {quoted name} does not take a value."
  | .argumentMissing name => s!"Missing argument '{name}'."
  | .badPath owner kind path problem =>
    s!"Invalid value for '{owner}': {kind.title} {quoted path} {problem.words}."
  | .notAnInteger owner text =>
    s!"Invalid value for '{owner}': {quoted text} is not a valid integer range."
  | .belowZero owner n => s!"Invalid value for '{owner}': {n} is not in the range x>=0."
  | .extraArguments words =>
    let ending := if words.length = 1 then "" else "s"
    s!"Got unexpected extra argument{ending} (" ++ join " " words ++ ")"

def usageLine : String := "Usage: main [OPTIONS] INPUT_DIR OUTPUT_DIR MANIFEST_PATH CLASSPATH\n"

/-- What is shown for a wrong command line. Where the value of an option is missing or unwanted, only
that is said. -/
def UsageError.report (e : UsageError) : String :=
  let hint := match e with
    | .valueMissing _ | .valueUnwanted _ => ""
    | _ => usageLine ++ "Try 'main -h' for help.\n\n"
  hint ++ s!"Error: {e.message}\n"

def helpText : String :=
  usageLine ++
  "\n  Compile every plugin script under INPUT_DIR into OUTPUT_DIR and write\n" ++
  "  MANIFEST_PATH.\n\n" ++
  "  CLASSPATH is a colon-separated list of extra import locations.\n\n" ++
  "Options:\n" ++
  "  --config FILE              JSON/JSONC settings file.\n" ++
  "  --suffix TEXT              File name suffix of plugin scripts (default:\n" ++
  "                             .plugin.py).\n" ++
  "  --max-depth INTEGER RANGE  Maximum directory depth searched (default: 1024).\n" ++
  "                             [x>=0]\n" ++
  "  --template TEXT            Script template class as 'module:Class'.\n" ++
  "  -v, --verbose              Enable debug logging.\n" ++
  "  -h, --help                 Show this message and exit.\n"

structure Words where
  options : List (Flag × String)
  arguments : List String

def lettersOf : List Char → Except UsageError (List (Flag × String))
  | [] => .ok []
  | c :: rest =>
    match Flag.ofLetter? c with
    | none => .error (.noSuchOption ("-" ++ String.singleton c) [])
    | some f => (lettersOf rest).map ((f, "") :: ·)

def isOption (word : String) : Bool := startsWith word "-" && word != "-"

def Words.read : List String → Except UsageError Words
  | [] => .ok ⟨[], []⟩
  | word :: rest =>
    let more (options : List (Flag × String)) (rest : Except UsageError Words) :
        Except UsageError Words :=
      rest.map fun w => { w with options := options ++ w.options }
    if word = "--" then .ok ⟨[], rest⟩
    else if !isOption word then
      (read rest).map fun w => { w with arguments := word :: w.arguments }
    else
      let (name, attached) := splitFirst '=' word
      match Flag.ofName? name with
      | none =>
        if startsWith word "--" then .error (.noSuchOption name (alike (Flag.all.map (·.name)) name))
        else match lettersOf (word.toList.drop 1) with
          | .error e => .error e
          | .ok options => more options (read rest)
      | some f =>
        match f.hasValue, attached, rest with
        | true, some value, rest => more [(f, value)] (read rest)
        | true, none, value :: rest => more [(f, value)] (read rest)
        | true, none, [] => .error (.valueMissing name)
        | false, some _, _ => .error (.valueUnwanted name)
        | false, none, rest => more [(f, "")] (read rest)

def Words.value? (w : Words) (f : Flag) : Option String := w.options.reverse.lookup f

end PluginBuild.CommandLine
