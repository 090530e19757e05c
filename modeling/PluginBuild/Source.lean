import PluginBuild.PluginClass
import PluginBuild.Script.Package
import PluginBuild.Template
import PluginBuild.Workspace

/-!
Sources as they are read: the bytes, the text that is shown, the tree or the error in its place, and
the class that a script becomes.
-/

namespace PluginBuild

open PluginBuild.Text PluginBuild.Script

structure SyntaxReport where
  message : String
  line : Option Int
  column : Option Int
  content : Option String
  deriving DecidableEq, Repr

def orOne : Option Int → Int
  | none => 1
  | some n => if n = 0 then 1 else n

def withoutLineEnd (s : String) : String :=
  String.ofList (s.toList.reverse.dropWhile fun c => c == '\r' || c == '\n').reverse

/-- The diagnostic for an error in a source. Where its line is not told, it is looked up. -/
def SyntaxReport.diagnostic (r : SyntaxReport) (path : Path) (text : String) : Diagnostic :=
  let line := orOne r.line
  let content := match r.content with
    | none => lineAt text line
    | some content => if content = "" then lineAt text line else content
  ⟨.error, path, line, orOne r.column, r.message, withoutLineEnd content⟩

def feedLine (text : List Char) (line : Nat) : String :=
  let lines := pieces '\n' text
  let content := lines.getD (line - 1) []
  String.ofList (if line < lines.length then content ++ ['\n'] else content)

def SyntaxReport.ofError (text : List Char) (e : SyntaxError) : SyntaxReport :=
  ⟨e.message, some e.line, some e.column, some (feedLine text e.line)⟩

structure SourceUnit where
  path : Path
  text : String
  bytes : Bytes
  tree : Except SyntaxReport Module
  plugin : Option PluginClass

def PluginClass.ofScript (path : Path) (tree : Except SyntaxReport Module) : PluginClass :=
  let package? := match tree with
    | .ok m => m.package?
    | .error _ => none
  ⟨PluginClass.nameOf path, package?.getD ""⟩

/-- The tree of a decoded source, or the report of the error in its text. What is too deep or has
null characters has neither. -/
def SourceText.tree (s : SourceText) : Except ParseError (Except SyntaxReport Module) :=
  match Module.parse s.parsed s.isMarked with
  | .ok m => .ok (.ok m)
  | .error (.invalid e) => .ok (.error (SyntaxReport.ofError s.parsed e))
  | .error e => .error e

def decodingFailure (path : Path) (e : EncodingError) : Failure :=
  match e with
  | .failed message => .encoding message
  | e => .toolchain (.undecodable path e)

def SourceUnit.ofBytes (codec? : String → Option Codec) (path : Path) (isScript : Bool)
    (bytes : Bytes) : Except Failure SourceUnit :=
  match SourceText.decode codec? bytes with
  | .error e => .error (decodingFailure path e)
  | .ok source =>
    match SourceText.tree source with
    | .error e => .error (.toolchain (.unparsable path e))
    | .ok tree =>
      .ok ⟨path, source.shown, bytes, tree,
        if isScript then some (PluginClass.ofScript path tree) else none⟩

def SourceUnit.load (template : Template) (path : Path) : Build SourceUnit := do
  let files := (← get).files
  match files.read path.text with
  | .error .nullCharacter => throw (.file .nullCharacter)
  | .error e => throw (.toolchain (.unreadable path e))
  | .ok bytes =>
    match SourceUnit.ofBytes files.platform.codec? path (template.isScript path.name) bytes with
    | .error e => throw e
    | .ok unit => pure unit

end PluginBuild
