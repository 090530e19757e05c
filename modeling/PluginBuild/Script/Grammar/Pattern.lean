import PluginBuild.Script.Grammar.Expr

/-!
Patterns of a match statement: literals, names to bind, dotted names to compare with, sequences,
mappings and classes.
-/

namespace PluginBuild.Script

open Read

def Token.startsPattern (t : Token) : Bool :=
  match t.kind with
  | .name | .number | .string => true
  | .keyword => ["False", "None", "True"].contains t.text
  | .op => ["(", "[", "\x7b", "-"].contains t.text
  | _ => false

def Token.startsStarPattern (t : Token) : Bool := t.startsPattern || t.is "*"

def signedNumber : Read Expr := do
  let pos ← here
  if ← accept "-" then return .unary pos .minus (← number)
  number

def Expr.isImaginary : Expr → Bool
  | .constant _ (.imaginary _) _ => true
  | _ => false

def patternNumber : Read Expr := do
  let pos ← here
  let left ← signedNumber
  let part (op : BinaryOp) : Read Expr := do
    advance
    let right ← number
    let isReal := match left with
      | .unary _ _ e => !e.isImaginary
      | e => !e.isImaginary
    if right.isImaginary && isReal then return .binary pos left op right
    mismatch
  if ← isNext "+" then part .add
  else if ← isNext "-" then part .sub
  else return left

def dottedName : Read Expr := do
  let t ← expectKind .name
  fold (.name t.pos (identifierOf t.text) .load) fun e => do
    if ← accept "." then return some (.attribute t.pos e (← identifier) .load)
    return none

def captureName : Read String := do
  let t ← expectKind .name
  if t.text = "_" then mismatch
  if ← isNext "." then mismatch
  if ← isNext "(" then mismatch
  if ← isNext "=" then mismatch
  return identifierOf t.text

def starPattern : Read Pattern := do
  let pos ← here
  expect "*"
  if (← peek).isSoft "_" then
    advance
    return .star pos none
  return .star pos (some (← captureName))

def sequenceElement (d : Deeper) : Read Pattern := do
  if ← isNext "*" then starPattern else d .pattern

def parenthesizedPattern (d : Deeper) : Read Pattern := do
  let pos ← here
  expect "("
  if ← accept ")" then return .sequence pos []
  let (elements, trailing) ← commaList Token.startsStarPattern (sequenceElement d)
  expect ")"
  match elements, trailing with
  | [.star .. ], false => mismatch
  | [p], false => return p
  | elements, _ => return .sequence pos elements

def bracketPattern (d : Deeper) : Read Pattern := do
  let pos ← here
  expect "["
  if ← accept "]" then return .sequence pos []
  let (elements, _) ← commaList Token.startsStarPattern (sequenceElement d)
  expect "]"
  return .sequence pos elements

/-- A key of a mapping pattern: a literal or a dotted name with at least one dot. -/
def mappingKey (d : Deeper) : Read Expr := do
  let t ← peek
  match t.kind with
  | .string => strings d
  | .name =>
    match ← dottedName with
    | .name .. => mismatch
    | e => return e
  | .keyword =>
    let constants : List (String × Constant) :=
      [("True", .bool true), ("False", .bool false), ("None", .none)]
    match constants.lookup t.text with
    | some value =>
      advance
      return .constant t.pos value none
    | none => mismatch
  | _ => patternNumber

def mappingPattern (d : Deeper) : Read Pattern := do
  let pos ← here
  expect "\x7b"
  let starts (t : Token) : Bool :=
    (t.startsPattern && ! ["(", "[", "\x7b"].contains t.text) || t.is "**"
  let entry (done : List (Expr × Pattern) × Option String) :
      Read (List (Expr × Pattern) × Option String) := do
    if done.2.isSome then mismatch
    if ← accept "**" then return (done.1, some (← captureName))
    let key ← mappingKey d
    expect ":"
    return ((key, ← d .pattern) :: done.1, none)
  if ← accept "\x7d" then return .mapping pos [] [] none
  let ((reversed, rest), _) ← fold (← entry ([], none), false) fun (done, ended) => do
    if ended then return none
    if !(← accept ",") then return none
    if starts (← peek) then return some (← entry done, false)
    return some (done, true)
  expect "\x7d"
  let entries := reversed.reverse
  return .mapping pos (entries.map (·.1)) (entries.map (·.2)) rest

def classPattern (d : Deeper) (pos : Pos) (cls : Expr) : Read Pattern := do
  expect "("
  let entry (done : List Pattern × List (String × Pattern)) :
      Read (List Pattern × List (String × Pattern)) := do
    if ← isNameBefore "=" then
      let name ← identifier
      advance
      return (done.1, (name, ← d .pattern) :: done.2)
    if !done.2.isEmpty then mismatch
    return ((← d .pattern) :: done.1, [])
  if ← accept ")" then return .class pos cls [] [] []
  let ((patterns, named), _) ← fold (← entry ([], []), false) fun (done, ended) => do
    if ended then return none
    if !(← accept ",") then return none
    if (← peek).startsPattern then return some (← entry done, false)
    return some (done, true)
  expect ")"
  let named := named.reverse
  return .class pos cls patterns.reverse (named.map (·.1)) (named.map (·.2))

def closedPattern (d : Deeper) : Read Pattern := do
  let t ← peek
  match t.kind with
  | .number => return .value t.pos (← patternNumber)
  | .string => return .value t.pos (← strings d)
  | .name =>
    if t.text = "_" then
      advance
      return .capture t.pos none none
    let name ← dottedName
    if ← isNext "(" then return ← classPattern d t.pos name
    if ← isNext "=" then mismatch
    match name with
    | .name _ id _ => return .capture t.pos none (some id)
    | e => return .value t.pos e
  | .keyword =>
    let constants : List (String × Constant) :=
      [("True", .bool true), ("False", .bool false), ("None", .none)]
    match constants.lookup t.text with
    | some value =>
      advance
      return .singleton t.pos value
    | none => mismatch
  | _ =>
    if t.is "(" then parenthesizedPattern d
    else if t.is "[" then bracketPattern d
    else if t.is "\x7b" then mappingPattern d
    else if t.is "-" then return .value t.pos (← patternNumber)
    else mismatch

def pattern (d : Deeper) : Read Pattern := do
  let pos ← here
  let first ← closedPattern d
  let reversed ← fold [first] fun done => do
    if ← accept "|" then return some ((← closedPattern d) :: done)
    return none
  let choice := match reversed with
    | [p] => p
    | _ => .alternatives pos reversed.reverse
  if ← accept "as" then return .capture pos (some choice) (some (← captureName))
  return choice

def casePattern (d : Deeper) : Read Pattern := do
  let pos ← here
  let element : Read Pattern := do
    if ← isNext "*" then starPattern else pattern d
  let (elements, trailing) ← commaList Token.startsStarPattern element
  match elements, trailing with
  | [.star ..], false => mismatch
  | [p], false => return p
  | elements, _ => return .sequence pos elements

end PluginBuild.Script
