import PluginBuild.Archive
import PluginBuild.Assembly
import PluginBuild.Code.Fault
import PluginBuild.Files.Access
import PluginBuild.Script.Encoding
import PluginBuild.Text.Quoted

/-!
Everything that can end a build early, by its cause. The wording of each cause is in its `message`.
-/

namespace PluginBuild

open PluginBuild.Text

def baseName (fileName : String) : String := (split '/' fileName).getLast?.getD ""

inductive ToolchainError where
  | unreadable (source : Path) (e : Files.FileError)
  | undecodable (source : Path) (e : Script.EncodingError)
  | unparsable (source : Path) (e : Script.ParseError)
  | brokenArchive (archive : Path) (e : Archive.ArchiveError)
  | disposed
  | notRetained
  | generation (fileName : String) (e : Code.Fault)
  | assembly (source : Path)
  | reported (message : String)
  deriving DecidableEq, Repr

def ToolchainError.message : ToolchainError → String
  | .unreadable source e => s!"Cannot read source {source}: {e.message}"
  | .undecodable source e => s!"Cannot decode source {source}: {e.message}"
  | .unparsable source e => s!"Cannot parse source {source}: {e.message}"
  | .brokenArchive archive e => s!"Cannot open classpath archive {archive}: {e.message}"
  | .disposed => "Compilation environment has already been disposed"
  | .notRetained => "Generated output must be retained in memory"
  | .generation fileName e =>
    s!"Code generation failed for {fileName}: {e.message (baseName fileName)}"
  | .assembly source =>
    s!"Code generation failed for {source}: RecursionError('maximum recursion depth exceeded')"
  | .reported message => message

inductive CompilationFault where
  | noBytecode
  | notAScript
  | artifactMissing (path : String)
  | toolchain (e : ToolchainError)
  | stated (text : String)
  deriving DecidableEq, Repr

def CompilationFault.text : CompilationFault → String
  | .noBytecode => "bytecode generation failed"
  | .notAScript => "entry unit is not a script"
  | .artifactMissing path => s!"entry artifact not found: {path}"
  | .toolchain e => s!"compilation failed: {e.message}"
  | .stated text => text

def CompilationFault.cause? : CompilationFault → Option ToolchainError
  | .toolchain e => some e
  | _ => none

structure CompilationFailure where
  fault : CompilationFault
  source : Option Path
  deriving DecidableEq, Repr

def CompilationFailure.message (f : CompilationFailure) : String :=
  match f.source with
  | none => f.fault.text
  | some source => s!"{source}: {f.fault.text}"

inductive ClasspathError where
  | notAPath (shown : String)
  | invalid (location : String)
  | unbalancedHost
  | notAnAddress (host : String)
  | dottedAddress
  | futureAddress
  | disguisedHost (host : String)
  | nowhere (e : Files.FileError)
  | unresolved
  deriving DecidableEq, Repr

inductive ClasspathError.Kind where
  | refusal
  | host
  | directory
  deriving DecidableEq, Repr

def ClasspathError.kind : ClasspathError → Kind
  | .notAPath _ | .invalid _ | .unresolved => .refusal
  | .unbalancedHost | .notAnAddress _ | .dottedAddress | .futureAddress | .disguisedHost _ => .host
  | .nowhere _ => .directory

def ClasspathError.message : ClasspathError → String
  | .notAPath shown => s!"Location returned by the execution context is not a path: {shown}"
  | .invalid location => s!"Location returned by the execution context is invalid: {location}"
  | .unbalancedHost => "Invalid IPv6 URL"
  | .notAnAddress host => s!"{quoted host} does not appear to be an IPv4 or IPv6 address"
  | .dottedAddress => "An IPv4 address cannot be in brackets"
  | .futureAddress => "IPvFuture address is invalid"
  | .disguisedHost host => s!"netloc '{host}' contains invalid characters under NFKC normalization"
  | .nowhere e => e.message
  | .unresolved => "Unable to resolve classpath for the current execution context"

inductive Failure where
  | file (e : Files.FileError)
  | archive (e : Archive.ArchiveError)
  | encoding (message : String)
  | tooNested
  | toolchain (e : ToolchainError)
  | assembly (e : AssemblyError)
  | compilation (f : CompilationFailure)
  | classpath (e : ClasspathError)
  | crash (message : String)
  deriving DecidableEq, Repr

def Failure.message : Failure → String
  | .file e => e.message
  | .archive e => e.message
  | .encoding message => message
  | .tooNested => "maximum recursion depth exceeded"
  | .toolchain e => e.message
  | .assembly e => e.message
  | .compilation f => f.message
  | .classpath e => e.message
  | .crash message => message

end PluginBuild
