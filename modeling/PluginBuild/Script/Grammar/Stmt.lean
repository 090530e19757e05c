import PluginBuild.Script.Grammar.Pattern

/-!
Statements. A simple statement ends with its line or at a semicolon; a compound statement has
blocks, which are indented or follow on the same line.
-/

namespace PluginBuild.Script

open Read

def blockOf (d : Deeper) (owner : String) (line : Nat) : Read (List Stmt) := do
  expect ":"
  if (← peek).kind = .newline then
    let next ← peekSecond
    if next.kind != .indent then
      indentationFault s!"expected an indented block after {owner} on line {line}"
  d .block

def blockAfter (d : Deeper) (word : String) (line : Nat) : Read (List Stmt) :=
  blockOf d s!"'{word}' statement" line

def names : Read (List String) := do
  let first ← identifier
  let reversed ← fold [first] fun done => do
    if ← accept "," then return some ((← identifier) :: done)
    return none
  return reversed.reverse

def nextPart (name : String) : Read (Option String) := do
  if ← accept "." then return some (name ++ "." ++ (← identifier))
  return none

def moduleName : Read String := do fold (← identifier) nextPart

def boundName : Read (Option String) := do
  if ← accept "as" then return some (← identifier)
  return none

def importStatement : Read Stmt := do
  let pos ← here
  expect "import"
  let one : Read Alias := do
    let pos ← here
    let name ← moduleName
    return ⟨pos, name, ← boundName⟩
  let reversed ← fold [← one] fun done => do
    if ← accept "," then return some ((← one) :: done)
    return none
  return .importModules pos reversed.reverse

def leadingDots : Read Nat :=
  fold 0 fun n => do
    if ← accept "." then return some (n + 1)
    if ← accept "..." then return some (n + 3)
    return none

/-- What is imported from a module: everything, or names, which may stand in brackets. A comma at
the end needs brackets. -/
def importedNames : Read (List Alias) := do
  let pos ← here
  let one : Read Alias := do
    let pos ← here
    let name ← identifier
    return ⟨pos, name, ← boundName⟩
  let isName (t : Token) : Bool := t.kind == .name
  if ← accept "*" then return [⟨pos, "*", none⟩]
  if ← accept "(" then
    let (aliases, _) ← commaList isName one
    expect ")"
    return aliases
  let (aliases, trailing) ← commaList isName one
  if trailing then mismatch
  return aliases

def importFromStatement : Read Stmt := do
  let pos ← here
  expect "from"
  let level ← leadingDots
  let module ← if ← pure (level != 0) <&&> isNext "import" then pure none else some <$> moduleName
  expect "import"
  return .importFrom pos module (← importedNames) level

def Constant.fixedName? : Constant → Option String
  | .none => some "None"
  | .bool true => some "True"
  | .bool false => some "False"
  | _ => Option.none

def assignedTarget (e : Expr) : Read Expr :=
  match e with
  | .constant pos value _ =>
    match value.fixedName? with
    | some name =>
      throw (.fault s!"cannot assign to {name}" pos.line (.bytes (pos.column + 1)) false)
    | none => mismatch
  | e => asTarget .store e

def singleTarget (e : Expr) : Read Expr :=
  match e with
  | .name .. | .attribute .. | .subscript .. => asTarget .store e
  | _ => mismatch

def expressionStatement (d : Deeper) : Read Stmt := do
  let first ← peek
  let pos := first.pos
  if first.is "yield" then
    let e ← yieldExpression d
    return .expr pos e
  let e ← starExpressions d
  let t ← peek
  if t.is "=" then
    let (targets, value) ← fold ([], e) fun (targets, value) => do
      if ← accept "=" then
        let target ← assignedTarget value
        return some (target :: targets, ← assignedValue d)
      return none
    return .assign pos targets.reverse value
  if t.is ":" then
    let target ← singleTarget e
    advance
    let hint ← d .expression
    let value ← if ← accept "=" then some <$> assignedValue d else pure none
    let simple := match e with
      | .name .. => first.kind == .name
      | _ => false
    return .annAssign pos target hint value simple
  match augmentedOperator? t with
  | some op =>
    let target ← singleTarget e
    advance
    return .augAssign pos target op (← assignedValue d)
  | none => return .expr pos e

def deleteStatement (d : Deeper) : Read Stmt := do
  let pos ← here
  expect "del"
  let target : Read Expr := do asTarget .del (← d .factor)
  let (targets, _) ← commaList Token.startsExpr target
  let t ← peek
  if t.kind != .newline && !t.is ";" then mismatch
  return .delete pos targets

def returnStatement (d : Deeper) : Read Stmt := do
  let pos ← here
  expect "return"
  if (← peek).startsStarred then return .return pos (some (← starExpressions d))
  return .return pos none

def raiseStatement (d : Deeper) : Read Stmt := do
  let pos ← here
  expect "raise"
  if !(← peek).startsExpr then return .raise pos none none
  let exception ← d .expression
  let cause ← if ← accept "from" then some <$> d .expression else pure none
  return .raise pos (some exception) cause

def assertStatement (d : Deeper) : Read Stmt := do
  let pos ← here
  expect "assert"
  let test ← d .expression
  let message ← if ← accept "," then some <$> d .expression else pure none
  return .assert pos test message

def simpleStatement (d : Deeper) : Read Stmt := do
  let t ← peek
  if t.kind = .keyword then
    match t.text with
    | "pass" => advance; return .pass t.pos
    | "break" => advance; return .break t.pos
    | "continue" => advance; return .continue t.pos
    | "import" => importStatement
    | "from" => importFromStatement
    | "del" => deleteStatement d
    | "return" => returnStatement d
    | "raise" => raiseStatement d
    | "assert" => assertStatement d
    | "global" => advance; return .globals t.pos (← names)
    | "nonlocal" => advance; return .nonlocals t.pos (← names)
    | _ => expressionStatement d
  else expressionStatement d

def simpleStatements (d : Deeper) : Read (List Stmt) := do
  let first ← simpleStatement d
  let (reversed, _) ← fold ([first], false) fun (done, ended) => do
    if ended then return none
    if !(← accept ";") then return none
    if (← peek).kind = .newline then return some (done, true)
    return some ((← simpleStatement d) :: done, false)
  let _ ← expectKind .newline
  return reversed.reverse

def elseBlock (d : Deeper) : Read (List Stmt) := do
  let t ← peek
  if ← accept "else" then blockAfter d "else" t.line else return []

def ifRest (d : Deeper) (word : String) : Nat → Read Stmt
  | 0 => throw .tooDeep
  | remaining + 1 => do
    let t ← peek
    expect word
    let test ← namedExpression d
    let body ← blockAfter d word t.line
    if ← isNext "elif" then return .if t.pos test body [← ifRest d "elif" remaining]
    return .if t.pos test body (← elseBlock d)

def maxNesting : Nat := 6000

def whileStatement (d : Deeper) : Read Stmt := do
  let t ← peek
  expect "while"
  let test ← namedExpression d
  let body ← blockAfter d "while" t.line
  return .while t.pos test body (← elseBlock d)

def forStatement (d : Deeper) (pos : Pos) (isAsync : Bool) : Read Stmt := do
  let t ← peek
  expect "for"
  let target ← loopTargets d
  expect "in"
  let iter ← starExpressions d
  let body ← blockAfter d "for" t.line
  return .for pos isAsync target iter body (← elseBlock d)

def withItem (d : Deeper) : Read WithItem := do
  let manager ← d .expression
  if ← accept "as" then
    let pos ← here
    let target ← if ← accept "*" then
        asTarget .store (.starred pos (← d .factor) .load)
      else asTarget .store (← d .factor)
    return ⟨manager, some target⟩
  return ⟨manager, none⟩

/-- The managers of a with statement, in brackets or not. Brackets that turn out to belong to the
first manager are read as such. -/
def withItems (d : Deeper) : Read (List WithItem) := do
  let bracketed : Read (List WithItem) := do
    expect "("
    let (items, _) ← commaList Token.startsExpr (withItem d)
    expect ")"
    if !(← isNext ":") then mismatch
    return items
  if ← isNext "(" then
    if let some items ← attempt bracketed then return items
  let reversed ← fold [← withItem d] fun done => do
    if ← accept "," then return some ((← withItem d) :: done)
    return none
  return reversed.reverse

def withStatement (d : Deeper) (pos : Pos) (isAsync : Bool) : Read Stmt := do
  let t ← peek
  expect "with"
  let items ← withItems d
  return .with pos isAsync items (← blockAfter d "with" t.line)

def handler (d : Deeper) (isStar : Bool) : Read Handler := do
  let t ← peek
  expect "except"
  if isStar then expect "*"
  if ← pure !isStar <&&> isNext ":" then
    return .mk t.pos none none (← blockAfter d "except" t.line)
  let type ← d .expression
  let name ← boundName
  let word := if isStar then "except*" else "except"
  return .mk t.pos (some type) name (← blockAfter d word t.line)

def finallyBlock (d : Deeper) : Read (List Stmt) := do
  let t ← peek
  if ← accept "finally" then blockAfter d "finally" t.line else return []

def tryStatement (d : Deeper) : Read Stmt := do
  let t ← peek
  expect "try"
  let body ← blockAfter d "try" t.line
  let next ← peek
  if next.is "finally" then return .try t.pos false body [] [] (← finallyBlock d)
  if !next.is "except" then faultHere "expected 'except' or 'finally' block"
  let isStar := (← peekSecond).is "*"
  let reversed ← fold [← handler d isStar] fun done => do
    if ← isNext "except" then return some ((← handler d isStar) :: done)
    return none
  let orelse ← elseBlock d
  return .try t.pos isStar body reversed.reverse orelse (← finallyBlock d)

def functionStatement (d : Deeper) (pos : Pos) (isAsync : Bool) (decorators : List Expr) :
    Read Stmt := do
  let t ← peek
  expect "def"
  let name ← identifier
  expect "("
  let ps ← params d true
  expect ")"
  let returns ← if ← accept "->" then some <$> d .expression else pure none
  let body ← blockOf d "function definition" t.line
  return .function pos isAsync name ps body decorators returns

def classStatement (d : Deeper) (decorators : List Expr) : Read Stmt := do
  let t ← peek
  expect "class"
  let name ← identifier
  let (bases, keywords) ← if ← isNext "(" then arguments d false else pure ([], [])
  let body ← blockOf d "class definition" t.line
  return .class t.pos name bases keywords body decorators

def decorated (d : Deeper) : Read Stmt := do
  let reversed ← fold [] fun done => do
    if ← accept "@" then
      let e ← namedExpression d
      let _ ← expectKind .newline
      return some (e :: done)
    return none
  let decorators := reversed.reverse
  let t ← peek
  if t.is "class" then classStatement d decorators
  else if t.is "def" then functionStatement d t.pos false decorators
  else if t.is "async" then
    advance
    functionStatement d t.pos true decorators
  else mismatch

def matchCase (d : Deeper) : Read MatchCase := do
  let t ← peek
  if !t.isSoft "case" then mismatch
  advance
  let p ← casePattern d
  let guard ← if ← accept "if" then some <$> namedExpression d else pure none
  return .mk p guard (← blockAfter d "case" t.line)

/-- A match statement. The word is a name elsewhere, so a line that does not read as one may still
be another statement. -/
def matchStatement (d : Deeper) : Read Stmt := do
  let t ← peek
  if !t.isSoft "match" then mismatch
  advance
  let pos ← here
  let first ← starNamedExpression d
  let subject ← if ← isNext "," then do
      let (elements, _) ← commaRest Token.startsStarred (starNamedExpression d) [first]
      pure (Expr.tuple pos elements .load)
    else match first with
      | .starred .. => mismatch
      | e => pure e
  expect ":"
  let _ ← expectKind .newline
  if (← peek).kind != .indent then
    indentationFault s!"expected an indented block after 'match' statement on line {t.line}"
  advance
  let reversed ← fold [← matchCase d] fun done => do
    if (← peek).isSoft "case" then return some ((← matchCase d) :: done)
    return none
  let _ ← expectKind .dedent
  return .match t.pos subject reversed.reverse

def statement (d : Deeper) : Read (List Stmt) := do
  let t ← peek
  if t.kind = .keyword then
    match t.text with
    | "if" => return [← ifRest d "if" maxNesting]
    | "while" => return [← whileStatement d]
    | "for" => return [← forStatement d t.pos false]
    | "with" => return [← withStatement d t.pos false]
    | "try" => return [← tryStatement d]
    | "def" => return [← functionStatement d t.pos false []]
    | "class" => return [← classStatement d []]
    | "async" =>
      advance
      let next ← peek
      if next.is "def" then return [← functionStatement d t.pos true []]
      if next.is "for" then return [← forStatement d t.pos true]
      if next.is "with" then return [← withStatement d t.pos true]
      mismatch
    | _ => simpleStatements d
  else if t.is "@" then return [← decorated d]
  else if t.isSoft "match" then
    match ← attempt (matchStatement d) with
    | some s => return [s]
    | none => simpleStatements d
  else simpleStatements d

def nextStatement (d : Deeper) (done : List (List Stmt)) : Read (Option (List (List Stmt))) := do
  let t ← peek
  if t.kind = .dedent || t.kind = .finish then return none
  return some ((← statement d) :: done)

def statements (d : Deeper) : Read (List Stmt) := do
  let blocks ← fold [] (nextStatement d)
  return blocks.reverse.flatten

def block (d : Deeper) : Read (List Stmt) := do
  if (← peek).kind = .newline then
    advance
    let _ ← expectKind .indent
    let body ← statements d
    let _ ← expectKind .dedent
    return body
  simpleStatements d

def rules : Nat → Deeper
  | 0, _ => throw .tooDeep
  | n + 1, .expression => expression (rules n)
  | n + 1, .inversion => inversion (rules n)
  | n + 1, .factor => factor (rules n)
  | n + 1, .pattern => pattern (rules n)
  | n + 1, .block => block (rules n)

def moduleRule : Read Module := do
  let body ← statements (rules maxNesting)
  let _ ← expectKind .finish
  return ⟨body⟩

end PluginBuild.Script
