import PluginBuild.Code.Term

/-!
What makes a module unfit for code, and what its writer is warned of.
-/

namespace PluginBuild.Code

open PluginBuild.Text

inductive Reach where
  | global
  | nonlocal
  deriving DecidableEq, Repr

def Reach.word : Reach → String
  | .global => "global"
  | .nonlocal => "nonlocal"

def Collection.scopeName : Collection → String
  | .list => "list comprehension"
  | .set => "set comprehension"
  | .dict => "dict comprehension"
  | .generator => "generator expression"

inductive Mistake where
  | futureBraces
  | unknownFuture (name : String)
  | lateFuture
  | duplicateParameter (name : String)
  | starImport
  | parameterDeclared (name : String) (reach : Reach)
  | usedBefore (name : String) (reach : Reach)
  | annotatedDeclared (name : String) (reach : Reach)
  | assignedBefore (name : String) (reach : Reach)
  | globalAndNonlocal (name : String)
  | nonlocalInModule
  | unboundNonlocal (name : String)
  | inHint (what : String)
  | yieldInside (kind : Collection)
  | namedInSource
  | namedRebindsTarget (name : String)
  | targetRebindsNamed (name : String)
  | namedInClass
  | assignsDebug
  | deletesDebug
  | breakOutsideLoop
  | continueOutsideLoop
  | leavesGroupHandler
  | returnOutsideFunction
  | returnInAsyncGenerator
  | yieldOutsideFunction
  | yieldFromInAsync
  | awaitOutsideFunction
  | awaitOutsideAsync
  | asyncOutsideAsync (word : String)
  | asyncComprehension
  | repeatedKeyword (name : String)
  | starredTarget
  | starredValue
  | manyStarredTargets
  | lateStarredTarget
  | defaultHandlerNotLast
  | manyBlocks
  | patternNotLiteral
  | keyNotLiteral
  | duplicateKey (shown : String)
  | manyStarredPatterns
  | lateStarredPattern
  | captureNotLast (name : String)
  | wildcardNotLast
  | duplicateCapture (name : String)
  | repeatedAttribute (name : String)
  | alternativesDiffer
  deriving DecidableEq, Repr

def Mistake.message : Mistake → String
  | .futureBraces => "not a chance"
  | .unknownFuture name => s!"future feature {name} is not defined"
  | .lateFuture => "from __future__ imports must occur at the beginning of the file"
  | .duplicateParameter name => s!"duplicate argument '{name}' in function definition"
  | .starImport => "import * only allowed at module level"
  | .parameterDeclared name reach => s!"name '{name}' is parameter and {reach.word}"
  | .usedBefore name reach => s!"name '{name}' is used prior to {reach.word} declaration"
  | .annotatedDeclared name reach => s!"annotated name '{name}' can't be {reach.word}"
  | .assignedBefore name reach => s!"name '{name}' is assigned to before {reach.word} declaration"
  | .globalAndNonlocal name => s!"name '{name}' is nonlocal and global"
  | .nonlocalInModule => "nonlocal declaration not allowed at module level"
  | .unboundNonlocal name => s!"no binding for nonlocal '{name}' found"
  | .inHint what => s!"{what} cannot be used within an annotation"
  | .yieldInside kind => s!"'yield' inside {kind.scopeName}"
  | .namedInSource =>
    "assignment expression cannot be used in a comprehension iterable expression"
  | .namedRebindsTarget name =>
    s!"assignment expression cannot rebind comprehension iteration variable '{name}'"
  | .targetRebindsNamed name =>
    s!"comprehension inner loop cannot rebind assignment expression target '{name}'"
  | .namedInClass =>
    "assignment expression within a comprehension cannot be used in a class body"
  | .assignsDebug => s!"cannot assign to {debugName}"
  | .deletesDebug => s!"cannot delete {debugName}"
  | .breakOutsideLoop => "'break' outside loop"
  | .continueOutsideLoop => "'continue' not properly in loop"
  | .leavesGroupHandler => "'break', 'continue' and 'return' cannot appear in an except* block"
  | .returnOutsideFunction => "'return' outside function"
  | .returnInAsyncGenerator => "'return' with value in async generator"
  | .yieldOutsideFunction => "'yield' outside function"
  | .yieldFromInAsync => "'yield from' inside async function"
  | .awaitOutsideFunction => "'await' outside function"
  | .awaitOutsideAsync => "'await' outside async function"
  | .asyncOutsideAsync word => s!"'async {word}' outside async function"
  | .asyncComprehension => "asynchronous comprehension outside of an asynchronous function"
  | .repeatedKeyword name => s!"keyword argument repeated: {name}"
  | .starredTarget => "starred assignment target must be in a list or tuple"
  | .starredValue => "can't use starred expression here"
  | .manyStarredTargets => "multiple starred expressions in assignment"
  | .lateStarredTarget => "too many expressions in star-unpacking assignment"
  | .defaultHandlerNotLast => "default 'except:' must be last"
  | .manyBlocks => "too many statically nested blocks"
  | .patternNotLiteral => "patterns may only match literals and attribute lookups"
  | .keyNotLiteral => "mapping pattern keys may only match literals and attribute lookups"
  | .duplicateKey shown => s!"mapping pattern checks duplicate key ({shown})"
  | .manyStarredPatterns => "multiple starred names in sequence pattern"
  | .lateStarredPattern => "too many expressions in star-unpacking sequence pattern"
  | .captureNotLast name => s!"name capture {quoted name} makes remaining patterns unreachable"
  | .wildcardNotLast => "wildcard makes remaining patterns unreachable"
  | .duplicateCapture name => s!"multiple assignments to name {quoted name} in pattern"
  | .repeatedAttribute name => s!"attribute name repeated in class pattern: {name}"
  | .alternativesDiffer => "alternative patterns bind different names"

/-- Why a module has no code. Code that was made to leave a block has no line of its own; a mistake
met behind it is at line -1. -/
inductive Fault where
  | mistake (m : Mistake) (line : Int)
  | reservedName (word : String)
  | tooDeep
  deriving DecidableEq, Repr

def Fault.message (fileName : String) : Fault → String
  | .mistake m line => s!"{m.message} ({fileName}, line {line})"
  | .reservedName word => s!"identifier field can't represent '{word}' constant"
  | .tooDeep => "maximum recursion depth exceeded while traversing 'expr' node"

inductive Caution where
  | literalIdentity (isNegated : Bool)
  | assertedTuple
  | notCallable (type : String)
  | notSubscriptable (type : String)
  | badIndex (type index : String)
  deriving DecidableEq, Repr

def Caution.message : Caution → String
  | .literalIdentity false => "\"is\" with a literal. Did you mean \"==\"?"
  | .literalIdentity true => "\"is not\" with a literal. Did you mean \"!=\"?"
  | .assertedTuple => "assertion is always true, perhaps remove parentheses?"
  | .notCallable type => s!"'{type}' object is not callable; perhaps you missed a comma?"
  | .notSubscriptable type =>
    s!"'{type}' object is not subscriptable; perhaps you missed a comma?"
  | .badIndex type index =>
    s!"{type} indices must be integers or slices, not {index}; perhaps you missed a comma?"

structure Warning where
  caution : Caution
  line : Nat
  deriving DecidableEq, Repr

end PluginBuild.Code
