import PluginBuild.Code.Binding
import PluginBuild.Code.Matching
import PluginBuild.Script.Preamble
import PluginBuild.Script.Walk

/-!
Making code for statements and modules. The statements that are in a loop, a `with` or a `try` lie
in a block; who leaves a block passes through what stands at its end. The end of a `try` with a
`finally` is code of its own for each way out, so that its warnings are repeated.
-/

namespace PluginBuild.Code

open PluginBuild.Script PluginBuild.Text

/-- A block that code lies in. Leaving `final` makes the code at its end, in the blocks around; it
is told whether a value is carried along. -/
inductive Block where
  | loop
  | plain
  | guarded
  | group
  | final (leave : Bool → Emission Unit)

def maxBlocks : Nat := 20

def enter (b : Block) (blocks : List Block) : Emission (List Block) := do
  if maxBlocks ≤ blocks.length then Emission.fail .manyBlocks
  return b :: blocks

def leave (toLoop carriesValue : Bool) : List Block → Emission Bool
  | [] => return false
  | .group :: _ => Emission.fail .leavesGroupHandler
  | .loop :: outer => if toLoop then return true else leave toLoop carriesValue outer
  | .plain :: outer => leave toLoop carriesValue outer
  | .guarded :: outer => do
    Emission.leaveLine
    leave toLoop carriesValue outer
  | .final atEnd :: outer => do
    atEnd carriesValue
    Emission.leaveLine
    leave toLoop carriesValue outer

/-- Where statements are: what the scope around makes of them, the last line of a future import, and
whether hints are kept as text. -/
structure Setting where
  surroundings : Surroundings
  isAsyncGenerator : Bool
  lastFutureLine : Int
  hintsAreText : Bool

def emitExpr? (s : Surroundings) : Option Expr → Emission Unit
  | none => return
  | some e => e.term.emit s

def emitExprs (s : Surroundings) (es : List Expr) : Emission Unit := emitItems s (es.map (·.term))

def emitHint (s : Setting) : Option Expr → Emission Unit
  | none => return
  | some e =>
    if s.hintsAreText then return else emitItems s.surroundings [e.term]

def emitHints (s : Setting) (ps : List Param) : Emission Unit :=
  ps.forM fun (.mk _ _ hint) => emitHint s hint

def emitHeader (s : Setting) (params : Params) (returns : Option Expr) : Emission Unit := do
  match params with
  | .mk positionalOnly positional rest keywordOnly keywordDefaults keywordRest defaults =>
    defaults.forM (·.term.emit s.surroundings)
    keywordDefaults.forM (emitExpr? s.surroundings)
    emitHints s (positional ++ positionalOnly ++ rest.toList ++ keywordOnly ++ keywordRest.toList)
    emitHint s returns

def emitAliases (names : List Alias) : Emission Unit := names.forM fun a =>
  match a.asName with
  | some name => Emission.forbid name .store
  | none => Emission.forbid (String.ofList (a.name.toList.takeWhile (· != '.'))) .store

def emitUpdate (s : Surroundings) (target value : Term) : Emission Unit := do
  match target with
  | .attribute pos object _ _ =>
    Emission.atLine pos (object.emit s)
    value.emit s
  | .subscript pos object index _ =>
    Emission.atLine pos do
      object.emit s
      index.emit s
    value.emit s
  | target =>
    value.emit s
    target.emit s

def emitIndex (s : Surroundings) : Term → Emission Unit
  | .display _ .tuple items _ => items.forM (·.emit s)
  | index => index.emit s

/-- Makes code for a target with a hint. Only in a module or a class the hint is evaluated. -/
def emitHinted (s : Setting) (target hint : Term) (value : Option Term) : Emission Unit := do
  let inside := s.surroundings
  let hintHasCode := !s.hintsAreText && (inside == .module || inside == .classBody)
  value.forM fun value => do
    value.emit inside
    target.emit inside
  match target with
  | .name _ id _ => Emission.forbid id .store
  | .attribute _ object attr _ =>
    Emission.forbid attr .store
    if value.isNone then object.emit inside
  | .subscript _ object index _ =>
    if value.isNone then
      object.emit inside
      emitIndex inside index
  | _ => pure ()
  if hintHasCode then hint.emit inside

def emitManagers (s : Surroundings) (isAsync : Bool) (body : List Block → Emission Unit) :
    List Block → List WithItem → Emission Unit
  | blocks, [] => body blocks
  | blocks, item :: rest => do
    if isAsync && s != .asyncFunction then Emission.fail (.asyncOutsideAsync "with")
    item.manager.term.emit s
    let inside ← enter .guarded blocks
    emitExpr? s item.target
    emitManagers s isAsync body inside rest

mutual

def ownTerms (hintsAreText : Bool) : Stmt → List Term
  | .function _ _ _ params _ decorators returns =>
    match params with
    | .mk positionalOnly positional rest keywordOnly keywordDefaults keywordRest defaults =>
      let hints := (positionalOnly ++ positional ++ rest.toList ++ keywordOnly
        ++ keywordRest.toList).filterMap fun (.mk _ _ hint) => hint
      (defaults ++ keywordDefaults.filterMap id ++ decorators ++
        if hintsAreText then [] else hints ++ returns.toList).map (·.term)
  | .class _ _ bases keywords _ decorators =>
    (bases ++ keywords.map (·.value) ++ decorators).map (·.term)
  | .return _ value => value.toList.map (·.term)
  | .delete _ targets => targets.map (·.term)
  | .assign _ targets value => (targets ++ [value]).map (·.term)
  | .augAssign _ target _ value => [target.term, value.term]
  | .annAssign _ target hint value _ =>
    (target :: value.toList ++ if hintsAreText then [] else [hint]).map (·.term)
  | .for _ _ target iter body orelse =>
    target.term :: iter.term :: ownTermsOf hintsAreText body ++ ownTermsOf hintsAreText orelse
  | .while _ test body orelse | .if _ test body orelse =>
    test.term :: ownTermsOf hintsAreText body ++ ownTermsOf hintsAreText orelse
  | .with _ _ items body =>
    items.flatMap (fun item => item.manager.term :: (item.target.map (·.term)).toList)
      ++ ownTermsOf hintsAreText body
  | .match _ subject cases => subject.term :: ownTermsOfCases hintsAreText cases
  | .raise _ exception cause => (exception.toList ++ cause.toList).map (·.term)
  | .try _ _ body handlers orelse final =>
    ownTermsOf hintsAreText body ++ ownTermsOfHandlers hintsAreText handlers
      ++ ownTermsOf hintsAreText orelse ++ ownTermsOf hintsAreText final
  | .assert _ test message => (test :: message.toList).map (·.term)
  | .expr _ value => [value.term]
  | .importModules .. | .importFrom .. | .globals .. | .nonlocals .. | .pass _ | .break _
  | .continue _ => []

def ownTermsOf (hintsAreText : Bool) : List Stmt → List Term
  | [] => []
  | s :: rest => ownTerms hintsAreText s ++ ownTermsOf hintsAreText rest

def ownTermsOfHandlers (hintsAreText : Bool) : List Handler → List Term
  | [] => []
  | .mk _ type _ body :: rest =>
    (type.map (·.term)).toList ++ ownTermsOf hintsAreText body ++ ownTermsOfHandlers hintsAreText rest

def ownTermsOfCases (hintsAreText : Bool) : List MatchCase → List Term
  | [] => []
  | .mk _ guard body :: rest =>
    (guard.map (·.term)).toList ++ ownTermsOf hintsAreText body ++ ownTermsOfCases hintsAreText rest

end

def Setting.ofFunction (s : Setting) (isAsync : Bool) (body : List Stmt) : Setting :=
  let traits := traitsOf (ownTermsOf s.hintsAreText body)
  { s with
    surroundings := if isAsync then .asyncFunction else .function
    isAsyncGenerator := traits.yields && (isAsync || traits.awaits) }

def emitLeap (blocks : List Block) (m : Mistake) : Emission Unit := do
  if !(← leave true false blocks) then Emission.fail m

def isComputed : Option Term → Bool
  | none | some (.value ..) => false
  | _ => true

mutual

def emitStmt (s : Setting) (blocks : List Block) (stmt : Stmt) : Emission Unit := do
  Emission.setLine stmt.pos
  let inside := s.surroundings
  match stmt with
  | .function pos isAsync name params body decorators returns =>
    params.bound.forM fun (name, _) => Emission.forbid name .store
    emitExprs inside decorators
    emitHeader s params returns
    Emission.atLine pos (emitStmts (s.ofFunction isAsync body) [] body)
    Emission.forbid name .store
  | .class pos name bases keywords body decorators =>
    emitExprs inside decorators
    Emission.atLine pos (emitStmts { s with surroundings := .classBody } [] body)
    checkKeywords (keywords.filterMap fun | .mk p name _ => name.map (·, p))
    emitExprs inside (bases ++ keywords.map (·.value))
    Emission.forbid name .store
  | .return _ value =>
    let value := value.map (·.term)
    if !inside.isFunction then Emission.fail .returnOutsideFunction
    if value.isSome && s.isAsyncGenerator then Emission.fail .returnInAsyncGenerator
    value.forM (·.emit inside)
    let _ ← leave false (isComputed value) blocks
  | .delete _ targets => targets.forM (·.term.emit inside)
  | .assign _ targets value =>
    value.term.emit inside
    targets.forM (·.term.emit inside)
  | .augAssign _ target _ value => emitUpdate inside target.term value.term
  | .annAssign _ target hint value _ =>
    emitHinted s target.term hint.term (value.map (·.term))
  | .for _ isAsync target iter body orelse =>
    if isAsync then
      if inside != .asyncFunction then Emission.fail (.asyncOutsideAsync "for")
      iter.term.emit inside
    let loop ← enter .loop blocks
    if !isAsync then iter.term.emit inside
    target.term.emit inside
    emitStmts s loop body
    emitStmts s blocks orelse
  | .while pos test body orelse =>
    let loop ← enter .loop blocks
    test.term.emit inside
    emitStmts s loop body
    Emission.setLine pos
    test.term.emit inside
    emitStmts s blocks orelse
  | .if _ test body orelse =>
    test.term.emit inside
    emitStmts s blocks body
    emitStmts s blocks orelse
  | .with _ isAsync items body =>
    emitManagers inside isAsync (fun blocks => emitStmts s blocks body) blocks items
  | .match _ subject cases =>
    subject.term.emit inside
    emitCases s blocks (cases.length = 1) cases
  | .raise _ exception cause =>
    emitExpr? inside exception
    emitExpr? inside cause
  | .try _ isStar body handlers orelse final =>
    let guarded (blocks : List Block) : Emission Unit := do
      let attempt ← enter .plain blocks
      emitStmts s attempt body
      if !isStar then emitStmts s blocks orelse
      Emission.leaveLine
      let handling ← enter (if isStar then .group else .plain) blocks
      emitHandlers s handling handlers
      if isStar then emitStmts s blocks orelse
    if final.isEmpty then guarded blocks
    else
      let whole ← enter
        (.final fun carriesValue => do
          let outer ← if carriesValue then enter .plain blocks else pure blocks
          emitStmts s outer final)
        blocks
      if handlers.isEmpty then emitStmts s whole body else guarded whole
      emitStmts s blocks final
      Emission.leaveLine
      let failed ← enter .plain blocks
      emitStmts s failed final
  | .assert _ test message =>
    match test.term with
    | .display _ .tuple (_ :: _) _ | .value _ (.tuple (_ :: _)) => Emission.warn .assertedTuple
    | _ => pure ()
    test.term.emit inside
    emitExpr? inside message
  | .importModules _ names => emitAliases names
  | .importFrom pos module names _ =>
    if module = some "__future__" ∧ s.lastFutureLine < pos.line then Emission.fail .lateFuture
    names.forM fun a => Emission.forbid (a.asName.getD a.name) .store
  | .globals .. | .nonlocals .. | .pass _ => return
  | .expr _ value => value.term.emit inside
  | .break _ => emitLeap blocks .breakOutsideLoop
  | .continue _ => emitLeap blocks .continueOutsideLoop

def emitStmts (s : Setting) (blocks : List Block) : List Stmt → Emission Unit
  | [] => return
  | stmt :: rest => do
    emitStmt s blocks stmt
    emitStmts s blocks rest

def emitHandlers (s : Setting) (blocks : List Block) : List Handler → Emission Unit
  | [] => return
  | .mk pos type name body :: rest => do
    Emission.setLine pos
    if type.isNone && !rest.isEmpty then Emission.fail .defaultHandlerNotLast
    emitExpr? s.surroundings type
    name.forM (Emission.forbid · .store)
    let handling ← enter .plain blocks
    emitStmts s handling body
    emitHandlers s blocks rest

/-- Makes code for the cases of a `match`. A wildcard that is the last of several cases is not
tested. -/
def emitCases (s : Setting) (blocks : List Block) (isOnly : Bool) : List MatchCase → Emission Unit
  | [] => return
  | .mk pattern guard body :: rest => do
    if rest.isEmpty && !isOnly && isWildcard pattern then Emission.setLine pattern.pos
    else
      let _ ← emitPattern s.surroundings (guard.isSome || rest.isEmpty) [] pattern
    emitExpr? s.surroundings guard
    emitStmts s blocks body
    emitCases s blocks false rest

end

def reservedWords : List String := ["None", "True", "False"]

/-- The reserved word that a node uses as a name. A name may be spelled with other characters that
stand for the same letters. -/
def reservedName? : Node → Option String
  | .expr (.name _ id _) => if id ∈ reservedWords then some id else none
  | .pattern (.star _ (some name)) | .pattern (.capture _ _ (some name))
  | .pattern (.mapping _ _ _ (some name)) => if name ∈ reservedWords then some name else none
  | _ => none

def futureFeatures : List String :=
  ["nested_scopes", "generators", "division", "absolute_import", "with_statement",
    "print_function", "unicode_literals", "barry_as_FLUFL", "generator_stop", "annotations"]

def checkFeatures (line : Nat) : List Alias → Except Fault Unit
  | [] => .ok ()
  | a :: rest =>
    if a.name = "braces" then .error (.mistake .futureBraces line)
    else if a.name ∈ futureFeatures then checkFeatures line rest
    else .error (.mistake (.unknownFuture a.name) line)

def leadingFutures (m : Module) : List Stmt :=
  (m.body.take (preambleLength m.body)).filter Stmt.isFutureImport

def featuresOf : Stmt → List Alias
  | .importFrom _ _ names _ => names
  | _ => []

def maxDepth : Nat := 950

def check (m : Module) : Except Fault (List Warning) := do
  if m.nodes.any (Node.isDeeperThan maxDepth) then throw .tooDeep
  match (walk m.nodes).findSome? reservedName? with
  | some word => throw (.reservedName word)
  | none => pure ()
  let futures := leadingFutures m
  futures.forM fun s => checkFeatures s.pos.line (featuresOf s)
  let hintsAreText := futures.any fun s => (featuresOf s).any (·.name = "annotations")
  let scope ← Scope.ofModule m hintsAreText
  scope.bind none
  let lastLine : Int := (futures.getLast?.map fun s => (s.pos.line : Int)).getD (-1)
  let (_, progress) ← (emitStmts ⟨.module, false, lastLine, hintsAreText⟩ [] m.body).run ⟨1, []⟩
  return progress.warnings.reverse

end PluginBuild.Code
