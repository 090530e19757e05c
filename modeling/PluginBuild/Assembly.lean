import PluginBuild.PluginClass
import PluginBuild.Script.Parse
import PluginBuild.Script.Preamble
import PluginBuild.Template
import PluginBuild.Text.Lines

/-!
The module that a script is compiled as. It imports the module of the template and holds one class,
derived from the template; the statements of the script run in the class's `__init__`, behind a
call of the base class and an assignment of the instance to the template's receiver. Future imports
move to the front, and the declaration of the package is left out.
-/

namespace PluginBuild

open PluginBuild.Script PluginBuild.Text

/-- Why a module cannot be put together. The names may not fit into the frame: it has an error then,
or not the statements that the script goes into. A script may also be nested too deep. -/
inductive AssemblyError where
  | unwritable (message : String) (line : Nat)
  | unreadable (e : ParseError)
  | missingClass
  | noBlock (kind : String)
  | tooDeep
  deriving DecidableEq, Repr

def AssemblyError.message : AssemblyError → String
  | .unwritable message line => s!"{message} (<unknown>, line {line})"
  | .unreadable e => e.message
  | .missingClass => "list index out of range"
  | .noBlock kind => s!"'{kind}' object has no attribute 'body'"
  | .tooDeep => "maximum recursion depth exceeded"

def templateAlias : String := "__script_template__"

def isName (word : String) : Bool := isIdentifier word && !isKeyword word

def isDottedName (s : String) : Bool := (split '.' s).all isName

def importOfTemplate (module : String) : Stmt :=
  .importModules ⟨1, 0⟩
    [⟨⟨1, 7⟩, join "." ((split '.' module).map identifierOf), some templateAlias⟩]

def baseOfTemplate (pos : Pos) (name : String) : Expr :=
  ((split '.' name).map identifierOf).foldl (fun e part => .attribute pos e part .load)
    (.name pos templateAlias .load)

def initCall : Stmt :=
  let pos : Pos := ⟨6, 8⟩
  .expr pos
    (.call pos (.attribute pos (.call pos (.name pos "super" .load) [] []) "__init__" .load)
      [.starred ⟨6, 25⟩ (.name ⟨6, 26⟩ "args" .load) .load]
      [.mk ⟨6, 32⟩ none (.name ⟨6, 34⟩ "kwargs" .load)])

def receiverAssignment (receiver : String) : Stmt :=
  .assign ⟨7, 8⟩ [.name ⟨7, 8⟩ (identifierOf receiver) .store]
    (.name ⟨7, 11 + receiver.utf8ByteSize⟩ "self" .load)

def initParams : Params :=
  .mk [] [.mk ⟨5, 17⟩ "self" none] (some (.mk ⟨5, 24⟩ "args" none)) [] []
    (some (.mk ⟨5, 32⟩ "kwargs" none)) []

def pluginClassStatement (name base receiver : String) (script : List Stmt) : Stmt :=
  .class ⟨4, 0⟩ (identifierOf name) [baseOfTemplate ⟨4, 7 + name.utf8ByteSize⟩ base] []
    [.function ⟨5, 4⟩ false "__init__" initParams
      (initCall :: receiverAssignment receiver :: script) [] none] []

def futureImports (m : Module) : List Stmt := m.body.filter (·.isFutureImport)

def methodStatements (m : Module) : List Stmt :=
  m.body.filter fun s => !s.isFutureImport && !s.isPackageDeclaration

/-- How many parts the name of a class may have for the frame to be known without reading it. -/
def maxNameParts : Nat := 1000

def isWritable (c : PluginClass) (t : Template) : Bool :=
  isDottedName t.module && isName c.name && isDottedName t.name && isName t.receiver &&
    decide ((split '.' t.name).length ≤ maxNameParts)

def frameText (c : PluginClass) (t : Template) : String :=
  s!"import {t.module} as __script_template__\n\n\n" ++
    s!"class {c.name}(__script_template__.{t.name}):\n" ++
    "    def __init__(self, *args, **kwargs):\n" ++
    "        super().__init__(*args, **kwargs)\n" ++
    s!"        {t.receiver} = self\n"

def Script.Stmt.extendBlock (s : Stmt) (more : List Stmt) : Except AssemblyError Stmt :=
  match s with
  | .function pos isAsync name params body decorators returns =>
    .ok (.function pos isAsync name params (body ++ more) decorators returns)
  | .class pos name bases keywords body decorators =>
    .ok (.class pos name bases keywords (body ++ more) decorators)
  | .for pos isAsync target iter body orelse =>
    .ok (.for pos isAsync target iter (body ++ more) orelse)
  | .while pos test body orelse => .ok (.while pos test (body ++ more) orelse)
  | .if pos test body orelse => .ok (.if pos test (body ++ more) orelse)
  | .with pos isAsync items body => .ok (.with pos isAsync items (body ++ more))
  | .try pos isStar body handlers orelse final =>
    .ok (.try pos isStar (body ++ more) handlers orelse final)
  | s => .error (.noBlock s.kind)

def Script.Stmt.extendFirst (s : Stmt) (more : List Stmt) : Except AssemblyError Stmt :=
  let inFirst : List Stmt → Except AssemblyError (List Stmt)
    | [] => .error .missingClass
    | first :: rest => (first.extendBlock more).map (· :: rest)
  match s with
  | .function pos isAsync name params body decorators returns =>
    (inFirst body).map fun body => .function pos isAsync name params body decorators returns
  | .class pos name bases keywords body decorators =>
    (inFirst body).map fun body => .class pos name bases keywords body decorators
  | .for pos isAsync target iter body orelse =>
    (inFirst body).map fun body => .for pos isAsync target iter body orelse
  | .while pos test body orelse => (inFirst body).map fun body => .while pos test body orelse
  | .if pos test body orelse => (inFirst body).map fun body => .if pos test body orelse
  | .with pos isAsync items body => (inFirst body).map fun body => .with pos isAsync items body
  | .try pos isStar body handlers orelse final =>
    (inFirst body).map fun body => .try pos isStar body handlers orelse final
  | s => .error (.noBlock s.kind)

def frameStatements (c : PluginClass) (t : Template) (script : List Stmt) :
    Except AssemblyError (List Stmt) :=
  match Module.parse (normalizeNewlines (frameText c t).toList) false with
  | .error (.invalid e) => .error (.unwritable e.message e.line)
  | .error e => .error (.unreadable e)
  | .ok m =>
    match m.body with
    | first :: second :: rest => (second.extendFirst script).map (first :: · :: rest)
    | _ => .error .missingClass

def maxWalkDepth : Nat := 950

def assemble (m : Module) (c : PluginClass) (t : Template) : Except AssemblyError Module := do
  let script := methodStatements m
  -- The frame is known for plain names, which most are; it is what its text would be read as.
  let frame ←
    if isWritable c t then
      pure [importOfTemplate t.module, pluginClassStatement c.name t.name t.receiver script]
    else frameStatements c t script
  if m.nodes.any (Node.isDeeperThan maxWalkDepth) then throw .tooDeep
  return ⟨futureImports m ++ frame⟩

end PluginBuild
