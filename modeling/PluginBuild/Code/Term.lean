import PluginBuild.Code.Arithmetic

/-!
Expressions as code is made from them. Expressions of known value are replaced by their values;
others are grouped by what matters for code: which names and scopes they have, and which of them
show a value of a known type.
-/

namespace PluginBuild.Code

open PluginBuild.Script PluginBuild.Text

inductive Display where
  | tuple
  | list
  | set
  | dict
  | text
  deriving DecidableEq, Repr

inductive Collection where
  | list
  | set
  | dict
  | generator
  deriving DecidableEq, Repr

mutual

/-- `compare` has one operand more than operators. The arguments of a `call` are followed by the
values of its keywords. The first source of a `comprehension` is evaluated outside its scope; a
dictionary has a key and a value as items. -/
inductive Term where
  | value (pos : Pos) (value : Value)
  | name (pos : Pos) (id : String) (use : Use)
  | attribute (pos : Pos) (object : Term) (attr : String) (use : Use)
  | subscript (pos : Pos) (object index : Term) (use : Use)
  | compare (pos : Pos) (ops : List CompareOp) (operands : List Term)
  | call (pos : Pos) (function : Term) (args : List Term) (keywords : List (String × Pos))
  | display (pos : Pos) (kind : Display) (items : List Term) (use : Use)
  | starred (pos : Pos) (item : Term) (use : Use)
  | named (pos : Pos) (target value : Term)
  | lambda (pos : Pos) (params : List (String × Pos)) (defaults : List Term) (body : Term)
  | comprehension (pos : Pos) (kind : Collection) (source target : Term) (conditions : List Term)
      (isAsync : Bool) (more : List Generator) (items : List Term)
  | await (pos : Pos) (value : Term)
  | yield (pos : Pos) (values : List Term)
  | yieldFrom (pos : Pos) (value : Term)
  | group (pos : Pos) (parts : List Term)

inductive Generator where
  | mk (target source : Term) (conditions : List Term) (isAsync : Bool)

end

def Term.typeName? : Term → Option String
  | .value _ v => some v.typeName
  | .display _ kind _ _ => some <|
    match kind with
    | .tuple => "tuple"
    | .list => "list"
    | .set => "set"
    | .dict => "dict"
    | .text => "str"
  | .comprehension _ kind .. => some <|
    match kind with
    | .list => "list"
    | .set => "set"
    | .dict => "dict"
    | .generator => "generator"
  | .lambda .. => some "function"
  | _ => none

def values? (terms : List Term) : Option (List Value) :=
  terms.mapM fun
    | .value _ v => some v
    | _ => none

def opposite? : CompareOp → Option CompareOp
  | .same => some .notSame
  | .notSame => some .same
  | .member => some .notMember
  | .notMember => some .member
  | _ => none

/-- A unary expression. The negation of a single test of identity or membership is the opposite
test. -/
def Term.unary (pos : Pos) (op : UnaryOp) (operand : Term) : Term :=
  let unknown := .group pos [operand]
  match op, operand with
  | _, .value _ v => ((unary? op v).map (.value pos)).getD unknown
  | .not, .compare p [test] operands =>
    ((opposite? test).map fun other => .compare p [other] operands).getD unknown
  | _, _ => unknown

def dropShortNumber : List Char → Option (List Char)
  | a :: b :: c :: rest =>
    if !a.isDigit then some (a :: b :: c :: rest)
    else if !b.isDigit then some (b :: c :: rest)
    else if c.isDigit then none else some (c :: rest)
  | text => some (text.dropWhile Char.isDigit)

def dropPlaceholder (text : List Char) : Option (List Char) := do
  let text ← dropShortNumber (text.dropWhile ['-', '+', ' ', '#', '0'].contains)
  let text ← match text with
    | '.' :: rest => dropShortNumber rest
    | text => some text
  match text with
  | c :: rest => if c = 's' ∨ c = 'r' ∨ c = 'a' then some rest else none
  | [] => none

/-- The number of placeholders in a format that has placeholders for texts only. The number bounds
the characters to go. -/
def placeholders? : Nat → List Char → Option Nat
  | 0, _ => some 0
  | _, [] => some 0
  | n + 1, '%' :: '%' :: rest => placeholders? n rest
  | n + 1, '%' :: rest => do return (← placeholders? n (← dropPlaceholder rest)) + 1
  | n + 1, _ :: rest => placeholders? n rest

def isStarred : Term → Bool
  | .starred .. => true
  | _ => false

def Term.binary (pos : Pos) (left : Term) (op : BinaryOp) (right : Term) : Term :=
  let unknown := .group pos [left, right]
  match op, left, right with
  | .mod, .value _ (.text format), .display _ .tuple items _ =>
    if placeholders? format.length format.toList = some items.length && !items.any isStarred then
      .display pos .text items .load
    else unknown
  | _, .value _ v, .value _ w => ((binary? op v w).map (.value pos)).getD unknown
  | _, _, _ => unknown

def Term.item (pos : Pos) (object index : Term) (use : Use) : Term :=
  let unknown := .subscript pos object index use
  match object, index, use with
  | .value _ v, .value _ i, .load => ((subscript? v i).map (.value pos)).getD unknown
  | _, _, _ => unknown

def Term.tuple (pos : Pos) (items : List Term) (use : Use) : Term :=
  match use, values? items with
  | .load, some values => .value pos (.tuple values)
  | _, _ => .display pos .tuple items use

def debugName : String := "__debug__"

def Term.ofGenerators (pos : Pos) (kind : Collection) (items : List Term) : List Generator → Term
  | [] => .group pos items
  | .mk target source conditions isAsync :: more =>
    .comprehension pos kind source target conditions isAsync more items

def entries (keys : List (Option Term)) (values : List Term) : List Term :=
  (keys.zip values).flatMap fun (key, value) => key.toList ++ [value]

end PluginBuild.Code

namespace PluginBuild.Script

open PluginBuild.Code

def Params.bound : Params → List (String × Pos)
  | .mk positionalOnly positional rest keywordOnly _ keywordRest _ =>
    (positionalOnly ++ positional ++ keywordOnly ++ rest.toList ++ keywordRest.toList).map fun p =>
      (p.name, p.pos)

mutual

def Expr.term : Expr → Term
  | .boolOp pos _ values => .group pos (terms values)
  | .named pos target value => .named pos target.term value.term
  | .binary pos left op right => .binary pos left.term op right.term
  | .unary pos op operand => .unary pos op operand.term
  | .lambda pos (.mk positionalOnly positional rest keywordOnly keywordDefaults keywordRest
      defaults) body =>
    let params := .mk positionalOnly positional rest keywordOnly keywordDefaults keywordRest defaults
    .lambda pos (Params.bound params) (terms defaults ++ (optionalTerms keywordDefaults).filterMap id)
      body.term
  | .conditional pos test body orelse => .group pos [test.term, body.term, orelse.term]
  | .dict pos keys values => .display pos .dict (entries (optionalTerms keys) (terms values)) .load
  | .set pos elements => .display pos .set (terms elements) .load
  | .listComp pos element gens => .ofGenerators pos .list [element.term] (generators gens)
  | .setComp pos element gens => .ofGenerators pos .set [element.term] (generators gens)
  | .dictComp pos key value gens => .ofGenerators pos .dict [key.term, value.term] (generators gens)
  | .generator pos element gens => .ofGenerators pos .generator [element.term] (generators gens)
  | .await pos value => .await pos value.term
  | .yield pos value => .yield pos (optionalTerm value).toList
  | .yieldFrom pos value => .yieldFrom pos value.term
  | .compare pos left ops comparators => .compare pos ops (left.term :: terms comparators)
  | .call pos func args keywords =>
    .call pos func.term (terms args ++ keywordTerms keywords)
      (keywords.filterMap fun | .mk p name _ => name.map (·, p))
  | .formatted pos value _ spec =>
    .display pos .text (value.term :: (optionalTerm spec).toList) .load
  | .joined pos values => .display pos .text (terms values) .load
  | .constant pos value _ => .value pos (.ofConstant value)
  | .attribute pos value attr use => .attribute pos value.term attr use
  | .subscript pos value index use => .item pos value.term index.term use
  | .starred pos value use => .starred pos value.term use
  | .name pos id use =>
    if use = .load ∧ id = debugName then .value pos (.bool true) else .name pos id use
  | .list pos elements use => .display pos .list (terms elements) use
  | .tuple pos elements use => .tuple pos (terms elements) use
  | .slice pos lower upper step =>
    .group pos ((optionalTerm lower).toList ++ (optionalTerm upper).toList
      ++ (optionalTerm step).toList)

def terms : List Expr → List Term
  | [] => []
  | e :: rest => e.term :: terms rest

def optionalTerm : Option Expr → Option Term
  | none => none
  | some e => some e.term

def optionalTerms : List (Option Expr) → List (Option Term)
  | [] => []
  | e :: rest => optionalTerm e :: optionalTerms rest

def keywordTerms : List Keyword → List Term
  | [] => []
  | .mk _ _ value :: rest => value.term :: keywordTerms rest

def generators : List Comprehension → List Generator
  | [] => []
  | .mk target iter conditions isAsync :: rest =>
    .mk target.term iter.term (terms conditions) isAsync :: generators rest

end

end PluginBuild.Script
