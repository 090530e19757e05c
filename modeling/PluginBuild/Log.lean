/-!
Records of what happens during a build.
-/

namespace PluginBuild

inductive LogLevel where
  | debug
  | info
  | warning
  | error
  | critical
  deriving DecidableEq, Repr

def LogLevel.name : LogLevel → String
  | .debug => "DEBUG"
  | .info => "INFO"
  | .warning => "WARNING"
  | .error => "ERROR"
  | .critical => "CRITICAL"

def LogLevel.number : LogLevel → Nat
  | .debug => 10
  | .info => 20
  | .warning => 30
  | .error => 40
  | .critical => 50

def LogLevel.all : List LogLevel := [.debug, .info, .warning, .error, .critical]

def LogLevel.ofName? (name : String) : Option LogLevel := LogLevel.all.find? (·.name == name)

structure LogRecord where
  level : LogLevel
  message : String
  deriving DecidableEq, Repr

end PluginBuild
