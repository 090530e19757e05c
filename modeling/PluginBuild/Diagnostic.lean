import PluginBuild.Log
import PluginBuild.Path

/-!
Messages about a place in a source.
-/

namespace PluginBuild

inductive Severity where
  | error
  | strongWarning
  | warning
  | info
  | logging
  deriving DecidableEq, Repr

namespace Severity

def all : List Severity := [.error, .strongWarning, .warning, .info, .logging]

def name : Severity → String
  | .error => "ERROR"
  | .strongWarning => "STRONG_WARNING"
  | .warning => "WARNING"
  | .info => "INFO"
  | .logging => "LOGGING"

def label : Severity → String
  | .error => "error"
  | .strongWarning => "strong warning"
  | .warning => "warning"
  | .info => "info"
  | .logging => "logging"

def isError (s : Severity) : Bool := s == .error

end Severity

structure Diagnostic where
  severity : Severity
  path : Path
  line : Int
  column : Int
  message : String
  content : String
  deriving DecidableEq, Repr

def Diagnostic.isError (d : Diagnostic) : Bool := d.severity.isError

def Diagnostic.record? (d : Diagnostic) : Option LogRecord :=
  if d.isError then
    some ⟨.error, s!"{d.path.text}:{d.line}-{d.column}: {d.message}\n>>> {d.content}"⟩
  else none

end PluginBuild
