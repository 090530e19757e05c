import PluginBuild.Code.Fault

/-!
Making code, as far as it can fail or call for caution. What is kept is the line that code is made
for and the cautions so far.
-/

namespace PluginBuild.Code

open PluginBuild.Script PluginBuild.Text

/-- The line that code is made for, and the warnings so far, the latest first. Code that belongs to
no line is at line -1. -/
structure Progress where
  line : Int
  warnings : List Warning

abbrev Emission := StateT Progress (Except Fault)

namespace Emission

def fail {α : Type} (m : Mistake) : Emission α := do throw (.mistake m (← get).line)

def warn (c : Caution) : Emission Unit :=
  modify fun p => { p with warnings := ⟨c, p.line.toNat⟩ :: p.warnings }

def setLine (pos : Pos) : Emission Unit := modify ({ · with line := pos.line })

def leaveLine : Emission Unit := modify ({ · with line := -1 })

def atLine (pos : Pos) (body : Emission Unit) : Emission Unit := do
  let before := (← get).line
  setLine pos
  body
  modify ({ · with line := before })

def forbid (name : String) (use : Use) : Emission Unit := do
  if name = debugName then
    match use with
    | .store => fail .assignsDebug
    | .del => fail .deletesDebug
    | .load => return

end Emission

inductive Surroundings where
  | module
  | classBody
  | function
  | asyncFunction
  | lambda
  | comprehension
  deriving DecidableEq, Repr

def Surroundings.isFunction : Surroundings → Bool
  | .module | .classBody => false
  | _ => true

def Surroundings.isAsync : Surroundings → Bool
  | .asyncFunction | .comprehension => true
  | _ => false

structure Traits where
  yields : Bool := false
  awaits : Bool := false
  deriving DecidableEq, Repr

def Traits.or (a b : Traits) : Traits := ⟨a.yields || b.yields, a.awaits || b.awaits⟩

mutual

/-- What a term makes the scope that it is in. A comprehension that awaits makes the scope around it
a coroutine, unless it is a generator. -/
def Term.traits : Term → Traits
  | .value .. | .name .. => {}
  | .attribute _ object _ _ => object.traits
  | .subscript _ object index _ => object.traits.or index.traits
  | .compare _ _ operands => traitsOf operands
  | .call _ function args _ => function.traits.or (traitsOf args)
  | .display _ _ items _ => traitsOf items
  | .starred _ item _ => item.traits
  | .named _ target value => target.traits.or value.traits
  | .lambda _ _ defaults _ => traitsOf defaults
  | .comprehension _ kind source target conditions isAsync more items =>
    let body := target.traits.or <| (traitsOf conditions).or <|
      (traitsOfGenerators more).or (traitsOf items)
    source.traits.or ⟨false, (isAsync || body.awaits) && kind != .generator⟩
  | .await _ value => ⟨value.traits.yields, true⟩
  | .yield _ values => ⟨true, (traitsOf values).awaits⟩
  | .yieldFrom _ value => ⟨true, value.traits.awaits⟩
  | .group _ parts => traitsOf parts

def traitsOf : List Term → Traits
  | [] => {}
  | t :: rest => t.traits.or (traitsOf rest)

def traitsOfGenerators : List Generator → Traits
  | [] => {}
  | .mk target source conditions isAsync :: rest =>
    Traits.or ⟨false, isAsync⟩ <| target.traits.or <| source.traits.or <|
      (traitsOf conditions).or (traitsOfGenerators rest)

end

def checkCallee (function : Term) : Emission Unit :=
  match function with
  | .value .. | .display .. | .comprehension .. =>
    function.typeName?.forM fun type => Emission.warn (.notCallable type)
  | _ => return

def Term.lacksItems : Term → Bool
  | .value _ v =>
    match v with
    | .none | .bool _ | .ellipsis | .int _ | .float _ | .complex _ _ => true
    | .text _ | .bytes _ | .tuple _ => false
  | .display _ .set _ _ | .comprehension _ .set .. | .comprehension _ .generator .. | .lambda .. =>
    true
  | _ => false

def Term.hasNumberedItems : Term → Bool
  | .value _ v =>
    match v with
    | .text _ | .bytes _ | .tuple _ => true
    | _ => false
  | .display _ .tuple _ _ | .display _ .list _ _ | .display _ .text _ _
  | .comprehension _ .list .. => true
  | _ => false

def checkItem (object index : Term) : Emission Unit := do
  match object.typeName? with
  | none => return
  | some type =>
    if object.lacksItems then Emission.warn (.notSubscriptable type)
    match index.typeName? with
    | none => return
    | some indexType =>
      if object.hasNumberedItems && indexType != "int" && indexType != "bool" then
        Emission.warn (.badIndex type indexType)

def Term.hasIdentity : Term → Bool
  | .value _ v => v.isSingle
  | _ => true

def checkIdentity : List CompareOp → List Term → Emission Unit
  | op :: ops, left :: right :: operands => do
    let isMeant := left.hasIdentity && right.hasIdentity
    match op with
    | .same | .notSame =>
      if isMeant then checkIdentity ops (right :: operands)
      -- The tests behind the first one that is not meant are not looked at.
      else Emission.warn (.literalIdentity (op == .notSame))
    | _ => checkIdentity ops (right :: operands)
  | _, _ => return

def checkKeywords : List (String × Pos) → Emission Unit
  | [] => return
  | (name, _) :: rest => do
    Emission.forbid name .store
    match rest.find? (·.1 = name) with
    | some (_, pos) =>
      Emission.setLine pos
      Emission.fail (.repeatedKeyword name)
    | none => checkKeywords rest

def maxStarPlace : Nat := 256

def checkTargets (isStar : Nat → Bool) (count : Nat) (many late : Mistake) : Emission Unit :=
  match (List.range count).filter isStar with
  | [] => return
  | [place] => if maxStarPlace ≤ place then Emission.fail late else return
  | place :: _ => if maxStarPlace ≤ place then Emission.fail late else Emission.fail many

mutual

def Term.emit (s : Surroundings) : Term → Emission Unit
  | .value .. => return
  | .name pos id use => Emission.atLine pos (Emission.forbid id use)
  | .attribute pos object attr use => Emission.atLine pos do
    object.emit s
    if use = .store then Emission.forbid attr use
  | .subscript pos object index use => Emission.atLine pos do
    if use = .load then checkItem object index
    object.emit s
    index.emit s
  | .compare pos ops operands => Emission.atLine pos do
    checkIdentity ops operands
    emitTerms s operands
  | .call pos function args keywords => Emission.atLine pos do
    checkKeywords keywords
    checkCallee function
    function.emit s
    emitItems s args
  | .display pos _ items use => Emission.atLine pos do
    if use = .store then
      checkTargets (fun i => items[i]?.any isStarred) items.length .manyStarredTargets
        .lateStarredTarget
    emitItems s items
  | .starred pos _ use => Emission.atLine pos <|
    if use = .store then Emission.fail .starredTarget else Emission.fail .starredValue
  | .named pos target value => Emission.atLine pos do
    value.emit s
    target.emit s
  | .lambda pos params defaults body => Emission.atLine pos do
    params.forM fun (name, _) => Emission.forbid name .store
    emitTerms s defaults
    body.emit .lambda
  | .comprehension pos kind source target conditions isAsync more items => Emission.atLine pos do
    let own := target.traits.or <| (traitsOf conditions).or <|
      (traitsOfGenerators more).or (traitsOf items)
    if (isAsync || own.awaits) && kind != .generator && !s.isAsync then
      Emission.fail .asyncComprehension
    target.emit .comprehension
    emitTerms .comprehension conditions
    emitGenerators .comprehension more
    emitTerms .comprehension items
    source.emit s
  | .await pos value => Emission.atLine pos do
    if !s.isFunction then Emission.fail .awaitOutsideFunction
    if !s.isAsync then Emission.fail .awaitOutsideAsync
    value.emit s
  | .yield pos values => Emission.atLine pos do
    if !s.isFunction then Emission.fail .yieldOutsideFunction
    emitTerms s values
  | .yieldFrom pos value => Emission.atLine pos do
    if !s.isFunction then Emission.fail .yieldOutsideFunction
    if s = .asyncFunction then Emission.fail .yieldFromInAsync
    value.emit s
  | .group pos parts => Emission.atLine pos (emitTerms s parts)

def emitTerms (s : Surroundings) : List Term → Emission Unit
  | [] => return
  | t :: rest => do t.emit s; emitTerms s rest

def emitItems (s : Surroundings) : List Term → Emission Unit
  | [] => return
  | .starred _ item _ :: rest => do item.emit s; emitItems s rest
  | t :: rest => do t.emit s; emitItems s rest

def emitGenerators (s : Surroundings) : List Generator → Emission Unit
  | [] => return
  | .mk target source conditions _ :: rest => do
    source.emit s
    target.emit s
    emitTerms s conditions
    emitGenerators s rest

end

end PluginBuild.Code
