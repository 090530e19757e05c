import PluginBuild.Template.Load

/-!
The modules of the build itself, which show classes of their own and of others; one of these is
annotated. They have been loaded already, so that importing one of them changes nothing.
-/

namespace PluginBuild

open PluginBuild.Text

def classHomes : List (String × List String) :=
  [("typing", ["Any", "Protocol"]), ("enum", ["Enum"]), ("pathlib", ["Path"]),
    ("contextlib", ["ExitStack"]),
    ("toolchain.base", ["ToolchainError", "AnalysisContextProtocol", "CheckHandler", "Toolchain"]),
    ("toolchain.configuration", ["CompilationConfiguration"]),
    ("toolchain.diagnostics", ["Severity", "Diagnostic", "DiagnosticSink"]),
    ("toolchain.environment", ["BytecodeTarget", "EnvironmentConfigFiles", "ScriptDescriptor",
      "SourceUnit", "SymbolIndex", "CompilationEnvironment"]),
    ("toolchain.output", ["OutputFile", "OutputFactory", "GenerationState"]),
    ("toolchain.registry", ["CheckRegistry"]), ("toolchain.service", ["ScriptToolchain"]),
    ("toolchain.template", ["ScriptDefinition", "PluginScript"]),
    ("toolchain.analysis", ["AnalysisContext"]),
    ("driver.batch", ["BatchReport", "BatchDriver"]),
    ("driver.classpath", ["ExecutionContext", "CurrentExecutionContext"]),
    ("driver.compiler", ["PluginCompiler"]), ("driver.configuration", ["ErrorDiagnosticSink"]),
    ("driver.errors", ["PluginCompilerError", "ClasspathResolutionError", "CompilationFailed"]),
    ("driver.runtime", ["CompilationResult", "Compiled", "Failed"]),
    ("config.settings", ["CompilerSettings"])]

def packageModules : List String := ["toolchain", "driver", "config", "app"]

def shownClasses : List (String × List String) :=
  [("toolchain", ["Toolchain", "ToolchainError", "CompilationConfiguration", "Diagnostic",
      "DiagnosticSink", "Severity", "CompilationEnvironment", "EnvironmentConfigFiles",
      "ScriptDescriptor", "SourceUnit", "GenerationState", "OutputFactory", "OutputFile",
      "ScriptToolchain", "PluginScript", "ScriptDefinition"]),
    ("toolchain.base", ["Any", "Protocol", "ToolchainError", "AnalysisContextProtocol",
      "CheckHandler", "Toolchain"]),
    ("toolchain.configuration", ["Path", "DiagnosticSink", "ScriptDefinition",
      "CompilationConfiguration"]),
    ("toolchain.diagnostics", ["Enum", "Path", "Protocol", "Severity", "Diagnostic",
      "DiagnosticSink"]),
    ("toolchain.environment", ["ExitStack", "Enum", "Path", "ToolchainError",
      "CompilationConfiguration", "BytecodeTarget", "EnvironmentConfigFiles", "ScriptDescriptor",
      "SourceUnit", "SymbolIndex", "CompilationEnvironment"]),
    ("toolchain.output", ["OutputFile", "OutputFactory", "GenerationState"]),
    ("toolchain.registry", ["Any", "CheckHandler", "CheckRegistry"]),
    ("toolchain.service", ["ToolchainError", "CompilationEnvironment", "GenerationState",
      "ScriptToolchain"]),
    ("toolchain.template", ["Any", "ScriptDefinition", "PluginScript"]),
    ("toolchain.analysis", ["Any", "Diagnostic", "Severity", "CompilationEnvironment",
      "SourceUnit", "SymbolIndex", "ScriptDefinition", "AnalysisContext"]),
    ("toolchain.codegen", ["AnalysisContext", "ToolchainError", "Severity", "BytecodeTarget",
      "ScriptDescriptor", "OutputFactory", "ScriptDefinition"]),
    ("toolchain.declarations", []), ("toolchain.imports", []),
    ("driver", ["BatchDriver", "BatchReport", "CurrentExecutionContext", "ExecutionContext",
      "PluginCompiler", "ClasspathResolutionError", "CompilationFailed", "PluginCompilerError",
      "Compiled", "CompilationResult", "Failed"]),
    ("driver.batch", ["Path", "ScriptDefinition", "Toolchain", "CurrentExecutionContext",
      "ExecutionContext", "PluginCompiler", "Compiled", "CompilationResult", "Failed",
      "BatchReport", "BatchDriver"]),
    ("driver.classpath", ["Path", "Any", "Protocol", "ClasspathResolutionError",
      "ExecutionContext", "CurrentExecutionContext"]),
    ("driver.compiler", ["ExitStack", "Path", "CompilationEnvironment", "EnvironmentConfigFiles",
      "ScriptDefinition", "ScriptToolchain", "Toolchain", "ToolchainError", "CompilationFailed",
      "Compiled", "CompilationResult", "Failed", "PluginCompiler"]),
    ("driver.configuration", ["Path", "CompilationConfiguration", "Diagnostic",
      "ScriptDefinition", "ErrorDiagnosticSink"]),
    ("driver.discovery", ["Path"]),
    ("driver.errors", ["Path", "PluginCompilerError", "ClasspathResolutionError",
      "CompilationFailed"]),
    ("driver.runtime", ["Path", "CompilationFailed", "CompilationResult", "Compiled", "Failed"]),
    ("config", ["CompilerSettings"]), ("config.parser", ["Path"]),
    ("config.settings", ["Path", "Any", "CompilerSettings"]), ("app", []),
    ("app.cli", ["Path", "BatchDriver", "PluginCompilerError", "ScriptDefinition"])]

def markingOf (name : String) : Option (Marking String) :=
  if name = Template.plugin.name then
    some [(extensionKey, Template.plugin.extension), (receiverKey, Template.plugin.receiver)]
  else none

def classOf? (name : String) : Option TemplateClass :=
  (classHomes.find? (·.2.contains name)).map fun (home, _) => ⟨home, name, markingOf name⟩

def dottedPrefixes (module : String) : List String :=
  let parts := split '.' module
  (List.range parts.length).map fun n => join "." (parts.take (n + 1))

/-- The first of the modules on the way that cannot be imported; each has the one before it as its
parent. -/
def firstMissing? (parent : Option String) : List String → Option ImportError
  | [] => none
  | module :: rest =>
    if (shownClasses.lookup module).isSome then firstMissing? (some module) rest
    else match parent with
      | some parent =>
        if packageModules.contains parent then some (.noModule module)
        else some (.notAPackage module parent)
      | none => some (.noModule module)

def catalogue : Importer := fun interpreter module name =>
  if startsWith module "." then throw (.relative module)
  else match firstMissing? none (dottedPrefixes module) with
    | some e => throw e
    | none =>
      let shown := ((shownClasses.lookup module).getD []).contains name
      return ⟨if shown then (classOf? name).map .templateClass else none, interpreter⟩

end PluginBuild
