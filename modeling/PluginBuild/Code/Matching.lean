import PluginBuild.Code.Emission

/-!
Making code for patterns. A pattern binds each name once, alternatives bind the same names, and a
pattern that matches everything stands last.
-/

namespace PluginBuild.Code

open PluginBuild.Script PluginBuild.Text

def capture (names : List String) : Option String → Emission (List String)
  | none => return names
  | some name => do
    Emission.forbid name .store
    if name ∈ names then Emission.fail (.duplicateCapture name)
    return names ++ [name]

def captureAll : List String → List String → Emission (List String)
  | names, [] => return names
  | names, name :: rest => do
    if name ∈ names then Emission.fail (.duplicateCapture name)
    captureAll (names ++ [name]) rest

def isWildcard : Pattern → Bool
  | .capture _ _ none => true
  | _ => false

def isStar : Pattern → Bool
  | .star .. => true
  | _ => false

def emitKeys (s : Surroundings) : List Value → List Expr → Emission Unit
  | _, [] => return
  | seen, key :: rest => do
    match key.term with
    | .value _ v =>
      if seen.any v.isSameKey then Emission.fail (.duplicateKey v.shown)
      emitKeys s (v :: seen) rest
    | .attribute pos object attr use =>
      (Term.attribute pos object attr use).emit s
      emitKeys s seen rest
    | _ => Emission.fail .keyNotLiteral

def checkAttributes : List String → List Pattern → Emission Unit
  | name :: names, p :: patterns => do
    Emission.setLine p.pos
    Emission.forbid name .store
    match (names.zip patterns).find? (·.1 = name) with
    | some (_, other) =>
      Emission.setLine other.pos
      Emission.fail (.repeatedAttribute name)
    | none => checkAttributes names patterns
  | _, _ => return

def isLiteralOrAttribute : Term → Bool
  | .value .. | .attribute .. => true
  | _ => false

mutual

def emitPattern (s : Surroundings) (mayMatchAll : Bool) (names : List String) :
    Pattern → Emission (List String)
  | .value pos value => do
    Emission.setLine pos
    if !isLiteralOrAttribute value.term then Emission.fail .patternNotLiteral
    value.term.emit s
    return names
  | .singleton pos _ => do
    Emission.setLine pos
    return names
  | .sequence pos patterns => do
    Emission.setLine pos
    let stars := (List.range patterns.length).filter fun i => patterns[i]?.any isStar
    match stars with
    | _ :: _ :: _ => Emission.fail .manyStarredPatterns
    | [place] =>
      let isAnonymous := patterns[place]?.any fun p => p matches .star _ none
      if !isAnonymous && maxStarPlace ≤ place then Emission.fail .lateStarredPattern
    | [] => pure ()
    emitPatterns s names patterns
  | .mapping pos keys patterns rest => do
    Emission.setLine pos
    emitKeys s [] keys
    capture (← emitPatterns s names patterns) rest
  | .class pos cls patterns attributes namedPatterns => do
    Emission.setLine pos
    checkAttributes attributes namedPatterns
    Emission.setLine pos
    cls.term.emit s
    emitPatterns s (← emitPatterns s names patterns) namedPatterns
  | .star pos name => do
    Emission.setLine pos
    capture names name
  | .capture pos none name => do
    Emission.setLine pos
    if !mayMatchAll then
      match name with
      | some name => Emission.fail (.captureNotLast name)
      | none => Emission.fail .wildcardNotLast
    capture names name
  | .capture pos (some pattern) name => do
    Emission.setLine pos
    capture (← emitPattern s mayMatchAll names pattern) name
  | .alternatives pos patterns => do
    Emission.setLine pos
    captureAll names (← emitAlternatives s mayMatchAll none patterns)

def emitPatterns (s : Surroundings) (names : List String) : List Pattern → Emission (List String)
  | [] => return names
  | p :: rest => do emitPatterns s (← emitPattern s true names p) rest

def emitAlternatives (s : Surroundings) (mayMatchAll : Bool) (shared : Option (List String)) :
    List Pattern → Emission (List String)
  | [] => return shared.getD []
  | p :: rest => do
    let names ← emitPattern s (mayMatchAll && rest.isEmpty) [] p
    match shared with
    | none => emitAlternatives s mayMatchAll (some names) rest
    | some others =>
      if names.length ≠ others.length ∨ others.any (!names.contains ·) then
        Emission.fail .alternativesDiffer
      emitAlternatives s mayMatchAll shared rest

end

end PluginBuild.Code
