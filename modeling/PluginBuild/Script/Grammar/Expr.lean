import PluginBuild.Script.Grammar.Basic
import PluginBuild.Script.Format

/-!
Expressions. Operators of one precedence associate to the left, except for powers and conditional
expressions. A node begins at the first token of what it was read from, brackets around its first
part included.
-/

namespace PluginBuild.Script

open Read

def Token.startsExpr (t : Token) : Bool :=
  match t.kind with
  | .name | .number | .string => true
  | .keyword => ["False", "None", "True", "await", "lambda", "not"].contains t.text
  | .op => ["(", "[", "\x7b", "+", "-", "~", "..."].contains t.text
  | _ => false

def Token.startsStarred (t : Token) : Bool := t.startsExpr || t.is "*"

def augmentedOperator? (t : Token) : Option BinaryOp :=
  if t.kind != .op then none
  else match t.text with
    | "+=" => some .add
    | "-=" => some .sub
    | "*=" => some .mult
    | "@=" => some .matMult
    | "/=" => some .div
    | "%=" => some .mod
    | "&=" => some .bitAnd
    | "|=" => some .bitOr
    | "^=" => some .bitXor
    | "<<=" => some .lShift
    | ">>=" => some .rShift
    | "**=" => some .pow
    | "//=" => some .floorDiv
    | _ => none

def Expr.asTarget? (use : Use) : Expr → Option Expr
  | .name pos id _ => some (.name pos id use)
  | .attribute pos value attr _ => some (.attribute pos value attr use)
  | .subscript pos value index _ => some (.subscript pos value index use)
  | .starred pos value _ =>
    match value with
    | .starred .. => none
    | _ => if use = .del then none else (value.asTarget? use).map (.starred pos · use)
  | .list pos elements _ => (targets? elements).map (.list pos · use)
  | .tuple pos elements _ => (targets? elements).map (.tuple pos · use)
  | _ => none
where
  targets? : List Expr → Option (List Expr)
    | [] => some []
    | e :: es =>
      match e.asTarget? use, targets? es with
      | some e, some es => some (e :: es)
      | _, _ => none

def asTarget (use : Use) (e : Expr) : Read Expr :=
  match e.asTarget? use with
  | some target => pure target
  | none => mismatch

def leftAssoc (operators : List (String × BinaryOp)) (operand : Read Expr) : Read Expr := do
  let pos ← here
  fold (← operand) fun left => do
    let t ← peek
    if t.kind != .op then return none
    match operators.lookup t.text with
    | none => return none
    | some op =>
      advance
      return some (.binary pos left op (← operand))

def logical (word : String) (op : BoolOp) (operand : Read Expr) : Read Expr := do
  let pos ← here
  let first ← operand
  if !(← isNext word) then return first
  let reversed ← fold [first] fun done => do
    if ← accept word then return some ((← operand) :: done)
    return none
  return .boolOp pos op reversed.reverse

def bitwiseOr (d : Deeper) : Read Expr :=
  let term := leftAssoc
    [("*", .mult), ("/", .div), ("//", .floorDiv), ("%", .mod), ("@", .matMult)] (d .factor)
  let sum := leftAssoc [("+", .add), ("-", .sub)] term
  let shift := leftAssoc [("<<", .lShift), (">>", .rShift)] sum
  leftAssoc [("|", .bitOr)] (leftAssoc [("^", .bitXor)] (leftAssoc [("&", .bitAnd)] shift))

def compareOperator? : Read (Option CompareOp) := do
  let t ← peek
  let simple : List (String × CompareOp) :=
    [("==", .eq), ("!=", .notEq), ("<=", .ltE), ("<", .lt), (">=", .gtE), (">", .gt),
      ("in", .member)]
  if t.kind != .op && t.kind != .keyword then return none
  match simple.lookup t.text with
  | some op =>
    advance
    return some op
  | none =>
    if t.is "not" then
      advance
      expect "in"
      return some .notMember
    else if t.is "is" then
      advance
      if ← accept "not" then return some .notSame
      return some .same
    else return none

def comparison (d : Deeper) : Read Expr := do
  let pos ← here
  let first ← bitwiseOr d
  let (ops, comparators) ← fold ([], []) fun (ops, comparators) => do
    match ← compareOperator? with
    | none => return none
    | some op => return some (op :: ops, (← bitwiseOr d) :: comparators)
  if ops.isEmpty then return first
  return .compare pos first ops.reverse comparators.reverse

def inversion (d : Deeper) : Read Expr := do
  let pos ← here
  if ← accept "not" then return .unary pos .not (← d .inversion)
  comparison d

def disjunction (d : Deeper) : Read Expr :=
  logical "or" .or (logical "and" .and (inversion d))

def starExpression (d : Deeper) : Read Expr := do
  let pos ← here
  if ← accept "*" then return .starred pos (← bitwiseOr d) .load
  d .expression

def starExpressions (d : Deeper) : Read Expr := do
  let pos ← here
  let (elements, trailing) ← commaList Token.startsStarred (starExpression d)
  match elements, trailing with
  | [e], false => return e
  | elements, _ => return .tuple pos elements .load

def namedExpression (d : Deeper) : Read Expr := do
  if ← isNameBefore ":=" then
    let t ← peek
    advance
    advance
    return .named t.pos (.name t.pos (identifierOf t.text) .store) (← d .expression)
  d .expression

def starNamedExpression (d : Deeper) : Read Expr := do
  let pos ← here
  if ← accept "*" then return .starred pos (← bitwiseOr d) .load
  namedExpression d

def yieldExpression (d : Deeper) : Read Expr := do
  let pos ← here
  expect "yield"
  if ← accept "from" then return .yieldFrom pos (← d .expression)
  if (← peek).startsStarred then return .yield pos (some (← starExpressions d))
  return .yield pos none

def assignedValue (d : Deeper) : Read Expr := do
  if ← isNext "yield" then yieldExpression d else starExpressions d

def loopTargets (d : Deeper) : Read Expr := do
  let pos ← here
  let element : Read Expr := do
    let pos ← here
    if ← accept "*" then asTarget .store (.starred pos (← d .factor) .load)
    else asTarget .store (← d .factor)
  let (elements, trailing) ← commaList Token.startsStarred element
  match elements, trailing with
  | [e], false => return e
  | elements, _ => return .tuple pos elements .store

def isClauseNext : Read Bool := do
  if ← isNext "for" then return true
  if ← isNext "async" then return (← peekSecond).is "for"
  return false

def clauses (d : Deeper) : Read (List Comprehension) := do
  let clause : Read Comprehension := do
    let isAsync ← accept "async"
    expect "for"
    let target ← loopTargets d
    expect "in"
    let iter ← disjunction d
    let conditions ← fold [] fun done => do
      if ← accept "if" then return some ((← disjunction d) :: done)
      return none
    return .mk target iter conditions.reverse isAsync
  let reversed ← fold [← clause] fun done => do
    if ← isClauseNext then return some ((← clause) :: done)
    return none
  return reversed.reverse

def parenthesized (d : Deeper) : Read Expr := do
  let pos ← here
  expect "("
  if ← accept ")" then return .tuple pos [] .load
  if ← isNext "yield" then
    let e ← yieldExpression d
    expect ")"
    return e
  let first ← starNamedExpression d
  let isStarred := match first with
    | .starred .. => true
    | _ => false
  if ← isNext "," then
    let (elements, _) ← commaRest Token.startsStarred (starNamedExpression d) [first]
    expect ")"
    return .tuple pos elements .load
  if isStarred then mismatch
  if ← isClauseNext then
    let generators ← clauses d
    expect ")"
    return .generator pos first generators
  expect ")"
  return first

def listDisplay (d : Deeper) : Read Expr := do
  let pos ← here
  expect "["
  if ← accept "]" then return .list pos [] .load
  let first ← starNamedExpression d
  let isStarred := match first with
    | .starred .. => true
    | _ => false
  if ← pure !isStarred <&&> isClauseNext then
    let generators ← clauses d
    expect "]"
    return .listComp pos first generators
  let (elements, _) ← commaRest Token.startsStarred (starNamedExpression d) [first]
  expect "]"
  return .list pos elements .load

def dictEntry (d : Deeper) : Read (Option Expr × Expr) := do
  if ← accept "**" then return (none, ← bitwiseOr d)
  let key ← d .expression
  expect ":"
  return (some key, ← d .expression)

def braceDisplay (d : Deeper) : Read Expr := do
  let pos ← here
  expect "\x7b"
  if ← accept "\x7d" then return .dict pos [] []
  let startsEntry (t : Token) : Bool := t.startsExpr || t.is "**"
  let finishDict (first : Option Expr × Expr) : Read Expr := do
    let (entries, _) ← commaRest startsEntry (dictEntry d) [first]
    expect "\x7d"
    return .dict pos (entries.map (·.1)) (entries.map (·.2))
  if ← isNext "**" then return ← finishDict (← dictEntry d)
  let first ← starNamedExpression d
  let (isStarred, isNamed) := match first with
    | .starred .. => (true, false)
    | .named p .. => (false, p == pos)
    | _ => (false, false)
  if ← pure !(isStarred || isNamed) <&&> accept ":" then
    let value ← d .expression
    if ← isClauseNext then
      let generators ← clauses d
      expect "\x7d"
      return .dictComp pos first value generators
    return ← finishDict (some first, value)
  if ← pure !isStarred <&&> isClauseNext then
    let generators ← clauses d
    expect "\x7d"
    return .setComp pos first generators
  let (elements, _) ← commaRest Token.startsStarred (starNamedExpression d) [first]
  expect "\x7d"
  return .set pos elements

structure Arguments where
  args : List Expr
  keywords : List Keyword
  unpacksMapping : Bool

/-- One argument of a call or class. Positional ones stand before keywords, and iterables are not
unpacked behind mappings. -/
def argument (d : Deeper) (done : Arguments) : Read Arguments := do
  let t ← peek
  if ← accept "**" then
    let value ← d .expression
    return { done with
      keywords := .mk t.pos none value :: done.keywords, unpacksMapping := true }
  if ← accept "*" then
    if done.unpacksMapping then mismatch
    return { done with args := .starred t.pos (← d .expression) .load :: done.args }
  if ← isNameBefore "=" then
    advance
    advance
    let value ← d .expression
    return { done with keywords := .mk t.pos (some (identifierOf t.text)) value :: done.keywords }
  if !done.keywords.isEmpty then mismatch
  return { done with args := (← namedExpression d) :: done.args }

def arguments (d : Deeper) (allowGenerator : Bool) : Read (List Expr × List Keyword) := do
  let pos ← here
  expect "("
  if ← accept ")" then return ([], [])
  let first ← argument d ⟨[], [], false⟩
  match first.args, first.keywords with
  | [e], [] =>
    let isStarred := match e with
      | .starred .. => true
      | _ => false
    if ← pure (allowGenerator && !isStarred) <&&> isClauseNext then
      let generators ← clauses d
      expect ")"
      return ([.generator pos e generators], [])
  | _, _ => pure ()
  let starts (t : Token) : Bool := t.startsStarred || t.is "**"
  let (done, _) ← fold (first, false) fun (done, ended) => do
    if ended then return none
    if !(← accept ",") then return none
    if starts (← peek) then return some (← argument d done, false)
    return some (done, true)
  expect ")"
  return (done.args.reverse, done.keywords.reverse)

def subscriptPart (d : Deeper) : Read Expr := do
  let pos ← here
  if ← accept "*" then return .starred pos (← bitwiseOr d) .load
  let bound : Read (Option Expr) := do
    if (← peek).startsExpr then return some (← d .expression) else return none
  if ← isNext ":" then pure ()
  else
    let first ← namedExpression d
    if !(← isNext ":") then return first
    expect ":"
    let upper ← bound
    let step ← if ← accept ":" then bound else pure none
    return .slice pos (some first) upper step
  expect ":"
  let upper ← bound
  let step ← if ← accept ":" then bound else pure none
  return .slice pos none upper step

def subscripts (d : Deeper) : Read Expr := do
  let pos ← here
  let starts (t : Token) : Bool := t.startsStarred || t.is ":"
  let (parts, trailing) ← commaList starts (subscriptPart d)
  match parts, trailing with
  | [.starred p value use], false => return .tuple pos [.starred p value use] .load
  | [part], false => return part
  | parts, _ => return .tuple pos parts .load

structure ParamRead where
  param : Param
  default : Option Expr

/-- Parameters so far, in reverse: those before a slash, those before a star, what the star
collects, those behind it, and what two stars collect. -/
structure ParamsRead where
  positionalOnly : List ParamRead
  positional : List ParamRead
  rest : Option Param
  hasStar : Bool
  hasSlash : Bool
  keywordOnly : List ParamRead
  keywordRest : Option Param

def param (d : Deeper) (hints starHint : Bool) : Read Param := do
  let t ← expectKind .name
  if ← pure hints <&&> accept ":" then
    let hint ← if starHint then starExpression d else d .expression
    return .mk t.pos (identifierOf t.text) (some hint)
  return .mk t.pos (identifierOf t.text) none

/-- One entry of a parameter list. A parameter without a default does not follow one with a default
unless a star stands between them. -/
def paramEntry (d : Deeper) (hints : Bool) (done : ParamsRead) : Read ParamsRead := do
  if done.keywordRest.isSome then mismatch
  if ← accept "**" then return { done with keywordRest := some (← param d hints false) }
  if ← accept "*" then
    if done.hasStar then mismatch
    if ← isNext "," then return { done with hasStar := true }
    return { done with hasStar := true, rest := some (← param d hints true) }
  if ← accept "/" then
    if done.hasStar || done.hasSlash || done.positional.isEmpty then mismatch
    return { done with hasSlash := true, positionalOnly := done.positional, positional := [] }
  let p ← param d hints false
  let default ← if ← accept "=" then some <$> d .expression else pure none
  if done.hasStar then return { done with keywordOnly := ⟨p, default⟩ :: done.keywordOnly }
  let earlier := done.positional ++ done.positionalOnly
  if default.isNone && earlier.any (·.default.isSome) then mismatch
  return { done with positional := ⟨p, default⟩ :: done.positional }

def ParamsRead.toParams (p : ParamsRead) : Params :=
  let positionalOnly := p.positionalOnly.reverse
  let positional := p.positional.reverse
  let keywordOnly := p.keywordOnly.reverse
  .mk (positionalOnly.map (·.param)) (positional.map (·.param)) p.rest
    (keywordOnly.map (·.param)) (keywordOnly.map (·.default)) p.keywordRest
    ((positionalOnly ++ positional).filterMap (·.default))

def ParamsRead.none : ParamsRead := ⟨[], [], .none, false, false, [], .none⟩

def params (d : Deeper) (hints : Bool) : Read Params := do
  let starts (t : Token) : Bool := t.kind == .name || t.is "*" || t.is "**" || t.is "/"
  if !starts (← peek) then return ParamsRead.none.toParams
  let first ← paramEntry d hints .none
  let (done, _) ← fold (first, false) fun (done, ended) => do
    if ended then return none
    if !(← accept ",") then return none
    if starts (← peek) then return some (← paramEntry d hints done, false)
    return some (done, true)
  if done.hasStar && done.rest.isNone && done.keywordOnly.isEmpty then mismatch
  return done.toParams

def lambdaExpression (d : Deeper) : Read Expr := do
  let pos ← here
  expect "lambda"
  let ps ← params d false
  expect ":"
  return .lambda pos ps (← d .expression)

def expression (d : Deeper) : Read Expr := do
  if ← isNext "lambda" then return ← lambdaExpression d
  let pos ← here
  let body ← disjunction d
  if ← accept "if" then
    let test ← disjunction d
    expect "else"
    return .conditional pos test body (← d .expression)
  return body

/-- Reads the expression of a replacement field as if it stood in brackets at the place of the
brace, and goes back to the tokens around the string. -/
def fieldExpression (d : Deeper) (brace : Pos) (text : List Char) : Read Expr := do
  let outer ← get
  let state := { Lexer.State.initial ('(' :: text ++ [')', '\n']) with
    line := brace.line, column := brace.column, chars := brace.column }
  modify fun _ => ⟨Lexer.run state, 0, 0⟩
  let value : Read Expr := do
    match ← attempt (starExpressions d) with
    | some e => return e
    | none => faultHere "f-string: invalid syntax"
  let e ← tryCatch value fun stop => do
    match stop with
    | .ending =>
      match (← get).tokens.ending with
      | .misspelt e line column =>
        throw (.fault ("f-string: " ++ e.message) line (.chars column) false)
      | _ => faultHere "f-string: invalid syntax"
    | stop => throw stop
  set outer
  return e

def joinLiterals : List (List Char ⊕ Expr) → List (List Char ⊕ Expr)
  | [] => []
  | .inr e :: rest => .inr e :: joinLiterals rest
  | .inl text :: rest =>
    match joinLiterals rest with
    | .inl more :: rest => .inl (text ++ more) :: rest
    | rest => if text.isEmpty then rest else .inl text :: rest

def joinedValues (pos : Pos) (kind : Option String) (parts : List (List Char ⊕ Expr)) : List Expr :=
  (joinLiterals parts).map fun
    | .inl text => .constant pos (.text (String.ofList text)) kind
    | .inr e => e

def literalValue (isRaw : Bool) (text : List Char) : Read (List Char) :=
  match textValue isRaw text with
  | .ok value => pure value
  | .error e => faultHere e.message

def formatValues (d : Deeper) (pos : Pos) (kind : Option String) (isRaw : Bool) :
    Nat → List FormatPart → Read (List (List Char ⊕ Expr))
  | 0, _ => pure []
  | _, [] => pure []
  | nesting + 1, .literal text :: rest => do
    let value ← literalValue isRaw text
    return .inl value :: (← formatValues d pos kind isRaw nesting rest)
  | nesting + 1, .field brace text shown conversion spec :: rest => do
    let value ← fieldExpression d brace text
    let format ← match spec with
      | none => pure none
      | some parts => do
        pure (some (Expr.joined pos (joinedValues pos kind
          (← formatValues d pos kind isRaw nesting parts))))
    let mark : Int := match conversion, shown, spec with
      | some c, _, _ => c.toNat
      | none, some _, none => 114
      | none, _, _ => -1
    let field := Expr.formatted pos value mark format
    let more ← formatValues d pos kind isRaw nesting rest
    return (shown.toList.map .inl) ++ .inr field :: more

def strings (d : Deeper) : Read Expr := do
  let first ← expectKind .string
  let reversed ← fold [first] fun done => do
    let t ← peek
    if t.kind = .string then
      advance
      return some (t :: done)
    return none
  let literals := reversed.reverse.map fun t => (t, StringLiteral.read t.text)
  let pos := first.pos
  if literals.any (·.2.isBytes) then
    if !literals.all (·.2.isBytes) then faultHere "cannot mix bytes and nonbytes literals"
    let pieces ← literals.mapM fun (t, l) => do
      if l.body.any (128 ≤ ·.toNat) then
        faultAt t "bytes can only contain ASCII literal characters"
      match bytesValue l.isRaw l.body with
      | .ok bytes => pure bytes
      | .error place => faultHere s!"(value error) invalid \\x escape at position {place}"
    return .constant pos (.bytes pieces.flatten) none
  let kind := if first.text.startsWith "u" then some "u" else none
  let pieces ← literals.mapM fun (t, l) => do
    if l.isFormat then
      let start : Spot := (Spot.mk t.text.toList t.pos).forward l.bodyStart
      match splitFormat l.isRaw start.pos l.body with
      | .error message => faultHere message
      | .ok parts => formatValues d pos kind l.isRaw (l.body.length + 1) parts
    else return [.inl (← literalValue l.isRaw l.body)]
  let parts := pieces.flatten
  if literals.any (·.2.isFormat) then return .joined pos (joinedValues pos kind parts)
  let text := parts.flatMap fun
    | .inl text => text
    | .inr _ => []
  return .constant pos (.text (String.ofList text)) kind

def number : Read Expr := do
  let t ← expectKind .number
  match numberValue t.text with
  | .ok value => return .constant t.pos value none
  | .error digits =>
    throw (.fault (tooManyDigitsMessage digits ++
      " - Consider hexadecimal for huge integer literals to avoid decimal conversion limits.")
      t.line (.chars 0) false)

def atom (d : Deeper) : Read Expr := do
  let t ← peek
  match t.kind with
  | .name =>
    advance
    return .name t.pos (identifierOf t.text) .load
  | .number => number
  | .string => strings d
  | _ =>
    if t.is "(" then parenthesized d
    else if t.is "[" then listDisplay d
    else if t.is "\x7b" then braceDisplay d
    else
      let constants : List (String × Constant) :=
        [("True", .bool true), ("False", .bool false), ("None", .none), ("...", .ellipsis)]
      match constants.lookup t.text with
      | some value =>
        advance
        return .constant t.pos value none
      | none => mismatch

def trailer (d : Deeper) (pos : Pos) (e : Expr) : Read (Option Expr) := do
  if ← accept "." then return some (.attribute pos e (← identifier) .load)
  if ← isNext "(" then
    let (args, keywords) ← arguments d true
    return some (.call pos e args keywords)
  if ← accept "[" then
    let index ← subscripts d
    expect "]"
    return some (.subscript pos e index .load)
  return none

def primary (d : Deeper) : Read Expr := do
  let pos ← here
  fold (← atom d) (trailer d pos)

def power (d : Deeper) : Read Expr := do
  let pos ← here
  let base ← if ← accept "await" then do pure (Expr.await pos (← primary d)) else primary d
  if ← accept "**" then return .binary pos base .pow (← d .factor)
  return base

def factor (d : Deeper) : Read Expr := do
  let pos ← here
  if ← accept "+" then return .unary pos .plus (← d .factor)
  if ← accept "-" then return .unary pos .minus (← d .factor)
  if ← accept "~" then return .unary pos .invert (← d .factor)
  power d

end PluginBuild.Script
