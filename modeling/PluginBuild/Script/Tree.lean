import PluginBuild.Text.Utf8

/-!
The syntax tree of a script. Expressions, patterns and statements are three families; every node
that can carry a message has the place where it begins. `Node` gathers all kinds of nodes, and
`Node.fields` lists the parts of a node in the order of the grammar, from which `Node.children` and
every walk over a tree are derived.
-/

namespace PluginBuild.Script

open PluginBuild.Text

/-- Where a node begins: the line counted from one and the column counted from zero, in UTF-8
bytes. -/
structure Pos where
  line : Nat
  column : Nat
  deriving DecidableEq, Repr, Inhabited

inductive Use where
  | load
  | store
  | del
  deriving DecidableEq, Repr

inductive BoolOp where
  | and
  | or
  deriving DecidableEq, Repr

inductive BinaryOp where
  | add | sub | mult | matMult | div | mod | pow | lShift | rShift | bitOr | bitXor | bitAnd
  | floorDiv
  deriving DecidableEq, Repr

inductive UnaryOp where
  | invert | not | plus | minus
  deriving DecidableEq, Repr

inductive CompareOp where
  | eq | notEq | lt | ltE | gt | gtE | same | notSame | member | notMember
  deriving DecidableEq, Repr

/-- Literal values. Floating-point numbers are given by their bits, so that two of them are equal
when they are the same literal value. A number literal has no sign. -/
inductive Constant where
  | none
  | bool (value : Bool)
  | ellipsis
  | int (value : Nat)
  | float (bits : UInt64)
  | imaginary (bits : UInt64)
  | text (value : String)
  | bytes (value : Bytes)
  deriving DecidableEq, Repr

mutual

inductive Expr where
  | boolOp (pos : Pos) (op : BoolOp) (values : List Expr)
  | named (pos : Pos) (target value : Expr)
  | binary (pos : Pos) (left : Expr) (op : BinaryOp) (right : Expr)
  | unary (pos : Pos) (op : UnaryOp) (operand : Expr)
  | lambda (pos : Pos) (params : Params) (body : Expr)
  | conditional (pos : Pos) (test body orelse : Expr)
  | dict (pos : Pos) (keys : List (Option Expr)) (values : List Expr)
  | set (pos : Pos) (elements : List Expr)
  | listComp (pos : Pos) (element : Expr) (generators : List Comprehension)
  | setComp (pos : Pos) (element : Expr) (generators : List Comprehension)
  | dictComp (pos : Pos) (key value : Expr) (generators : List Comprehension)
  | generator (pos : Pos) (element : Expr) (generators : List Comprehension)
  | await (pos : Pos) (value : Expr)
  | yield (pos : Pos) (value : Option Expr)
  | yieldFrom (pos : Pos) (value : Expr)
  | compare (pos : Pos) (left : Expr) (ops : List CompareOp) (comparators : List Expr)
  | call (pos : Pos) (func : Expr) (args : List Expr) (keywords : List Keyword)
  | formatted (pos : Pos) (value : Expr) (conversion : Int) (spec : Option Expr)
  | joined (pos : Pos) (values : List Expr)
  | constant (pos : Pos) (value : Constant) (kind : Option String)
  | attribute (pos : Pos) (value : Expr) (attr : String) (use : Use)
  | subscript (pos : Pos) (value index : Expr) (use : Use)
  | starred (pos : Pos) (value : Expr) (use : Use)
  | name (pos : Pos) (id : String) (use : Use)
  | list (pos : Pos) (elements : List Expr) (use : Use)
  | tuple (pos : Pos) (elements : List Expr) (use : Use)
  | slice (pos : Pos) (lower upper step : Option Expr)

inductive Comprehension where
  | mk (target iter : Expr) (conditions : List Expr) (isAsync : Bool)

inductive Keyword where
  | mk (pos : Pos) (name : Option String) (value : Expr)

inductive Param where
  | mk (pos : Pos) (name : String) (hint : Option Expr)

/-- The parameters of a function. `defaults` belong to the last of the positional ones,
`keywordDefaults` to the keyword-only ones, one for each. -/
inductive Params where
  | mk (positionalOnly positional : List Param) (rest : Option Param) (keywordOnly : List Param)
      (keywordDefaults : List (Option Expr)) (keywordRest : Option Param) (defaults : List Expr)

end

structure Alias where
  pos : Pos
  name : String
  asName : Option String
  deriving DecidableEq, Repr

structure WithItem where
  manager : Expr
  target : Option Expr

inductive Pattern where
  | value (pos : Pos) (value : Expr)
  | singleton (pos : Pos) (value : Constant)
  | sequence (pos : Pos) (patterns : List Pattern)
  | mapping (pos : Pos) (keys : List Expr) (patterns : List Pattern) (rest : Option String)
  | class (pos : Pos) (cls : Expr) (patterns : List Pattern) (names : List String)
      (namedPatterns : List Pattern)
  | star (pos : Pos) (name : Option String)
  | capture (pos : Pos) (pattern : Option Pattern) (name : Option String)
  | alternatives (pos : Pos) (patterns : List Pattern)

mutual

inductive Stmt where
  | function (pos : Pos) (isAsync : Bool) (name : String) (params : Params) (body : List Stmt)
      (decorators : List Expr) (returns : Option Expr)
  | class (pos : Pos) (name : String) (bases : List Expr) (keywords : List Keyword)
      (body : List Stmt) (decorators : List Expr)
  | return (pos : Pos) (value : Option Expr)
  | delete (pos : Pos) (targets : List Expr)
  | assign (pos : Pos) (targets : List Expr) (value : Expr)
  | augAssign (pos : Pos) (target : Expr) (op : BinaryOp) (value : Expr)
  | annAssign (pos : Pos) (target hint : Expr) (value : Option Expr) (simple : Bool)
  | for (pos : Pos) (isAsync : Bool) (target iter : Expr) (body orelse : List Stmt)
  | while (pos : Pos) (test : Expr) (body orelse : List Stmt)
  | if (pos : Pos) (test : Expr) (body orelse : List Stmt)
  | with (pos : Pos) (isAsync : Bool) (items : List WithItem) (body : List Stmt)
  | match (pos : Pos) (subject : Expr) (cases : List MatchCase)
  | raise (pos : Pos) (exception cause : Option Expr)
  | try (pos : Pos) (isStar : Bool) (body : List Stmt) (handlers : List Handler)
      (orelse final : List Stmt)
  | assert (pos : Pos) (test : Expr) (message : Option Expr)
  | importModules (pos : Pos) (names : List Alias)
  | importFrom (pos : Pos) (module : Option String) (names : List Alias) (level : Nat)
  | globals (pos : Pos) (names : List String)
  | nonlocals (pos : Pos) (names : List String)
  | expr (pos : Pos) (value : Expr)
  | pass (pos : Pos)
  | break (pos : Pos)
  | continue (pos : Pos)

inductive Handler where
  | mk (pos : Pos) (type : Option Expr) (name : Option String) (body : List Stmt)

inductive MatchCase where
  | mk (pattern : Pattern) (guard : Option Expr) (body : List Stmt)

end

structure Module where
  body : List Stmt

def Expr.pos : Expr → Pos
  | .boolOp p .. | .named p .. | .binary p .. | .unary p .. | .lambda p .. | .conditional p ..
  | .dict p .. | .set p .. | .listComp p .. | .setComp p .. | .dictComp p .. | .generator p ..
  | .await p .. | .yield p .. | .yieldFrom p .. | .compare p .. | .call p .. | .formatted p ..
  | .joined p .. | .constant p .. | .attribute p .. | .subscript p .. | .starred p .. | .name p ..
  | .list p .. | .tuple p .. | .slice p .. => p

def Pattern.pos : Pattern → Pos
  | .value p .. | .singleton p .. | .sequence p .. | .mapping p .. | .class p .. | .star p ..
  | .capture p .. | .alternatives p .. => p

def Stmt.pos : Stmt → Pos
  | .function p .. | .class p .. | .return p .. | .delete p .. | .assign p .. | .augAssign p ..
  | .annAssign p .. | .for p .. | .while p .. | .if p .. | .with p .. | .match p .. | .raise p ..
  | .try p .. | .assert p .. | .importModules p .. | .importFrom p .. | .globals p ..
  | .nonlocals p .. | .expr p .. | .pass p | .break p | .continue p => p

def Param.name : Param → String
  | .mk _ name _ => name

def Param.pos : Param → Pos
  | .mk pos _ _ => pos

def Keyword.name : Keyword → Option String
  | .mk _ name _ => name

def Keyword.value : Keyword → Expr
  | .mk _ _ value => value

end PluginBuild.Script
