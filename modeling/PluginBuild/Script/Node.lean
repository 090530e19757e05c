import PluginBuild.Script.Tree

/-!
A uniform view of the syntax tree. Each node has a kind, a place if it can carry a message, and
fields in the order of the grammar; its children are the nodes in its fields, from left to right.
-/

namespace PluginBuild.Script

inductive Node where
  | stmt (s : Stmt)
  | expr (e : Expr)
  | comprehension (c : Comprehension)
  | keyword (k : Keyword)
  | params (p : Params)
  | param (p : Param)
  | imported (a : Alias)
  | withItem (w : WithItem)
  | pattern (p : Pattern)
  | handler (h : Handler)
  | matchCase (c : MatchCase)
  | use (u : Use)
  | boolOp (op : BoolOp)
  | binaryOp (op : BinaryOp)
  | unaryOp (op : UnaryOp)
  | compareOp (op : CompareOp)

inductive Field where
  | node (n : Node)
  | optional (n : Option Node)
  | nodes (ns : List Node)
  | optionals (ns : List (Option Node))
  | text (s : Option String)
  | texts (ss : List String)
  | constant (c : Constant)
  | number (n : Int)

def Field.children : Field → List Node
  | .node n => [n]
  | .optional n => n.toList
  | .nodes ns => ns
  | .optionals ns => ns.filterMap id
  | .text _ | .texts _ | .constant _ | .number _ => []

def Use.kind : Use → String
  | .load => "Load"
  | .store => "Store"
  | .del => "Del"

def BoolOp.kind : BoolOp → String
  | .and => "And"
  | .or => "Or"

def BinaryOp.kind : BinaryOp → String
  | .add => "Add"
  | .sub => "Sub"
  | .mult => "Mult"
  | .matMult => "MatMult"
  | .div => "Div"
  | .mod => "Mod"
  | .pow => "Pow"
  | .lShift => "LShift"
  | .rShift => "RShift"
  | .bitOr => "BitOr"
  | .bitXor => "BitXor"
  | .bitAnd => "BitAnd"
  | .floorDiv => "FloorDiv"

def UnaryOp.kind : UnaryOp → String
  | .invert => "Invert"
  | .not => "Not"
  | .plus => "UAdd"
  | .minus => "USub"

def CompareOp.kind : CompareOp → String
  | .eq => "Eq"
  | .notEq => "NotEq"
  | .lt => "Lt"
  | .ltE => "LtE"
  | .gt => "Gt"
  | .gtE => "GtE"
  | .same => "Is"
  | .notSame => "IsNot"
  | .member => "In"
  | .notMember => "NotIn"

def Expr.kind : Expr → String
  | .boolOp .. => "BoolOp"
  | .named .. => "NamedExpr"
  | .binary .. => "BinOp"
  | .unary .. => "UnaryOp"
  | .lambda .. => "Lambda"
  | .conditional .. => "IfExp"
  | .dict .. => "Dict"
  | .set .. => "Set"
  | .listComp .. => "ListComp"
  | .setComp .. => "SetComp"
  | .dictComp .. => "DictComp"
  | .generator .. => "GeneratorExp"
  | .await .. => "Await"
  | .yield .. => "Yield"
  | .yieldFrom .. => "YieldFrom"
  | .compare .. => "Compare"
  | .call .. => "Call"
  | .formatted .. => "FormattedValue"
  | .joined .. => "JoinedStr"
  | .constant .. => "Constant"
  | .attribute .. => "Attribute"
  | .subscript .. => "Subscript"
  | .starred .. => "Starred"
  | .name .. => "Name"
  | .list .. => "List"
  | .tuple .. => "Tuple"
  | .slice .. => "Slice"

def Pattern.kind : Pattern → String
  | .value .. => "MatchValue"
  | .singleton .. => "MatchSingleton"
  | .sequence .. => "MatchSequence"
  | .mapping .. => "MatchMapping"
  | .class .. => "MatchClass"
  | .star .. => "MatchStar"
  | .capture .. => "MatchAs"
  | .alternatives .. => "MatchOr"

def Stmt.kind : Stmt → String
  | .function _ isAsync .. => if isAsync then "AsyncFunctionDef" else "FunctionDef"
  | .class .. => "ClassDef"
  | .return .. => "Return"
  | .delete .. => "Delete"
  | .assign .. => "Assign"
  | .augAssign .. => "AugAssign"
  | .annAssign .. => "AnnAssign"
  | .for _ isAsync .. => if isAsync then "AsyncFor" else "For"
  | .while .. => "While"
  | .if .. => "If"
  | .with _ isAsync .. => if isAsync then "AsyncWith" else "With"
  | .match .. => "Match"
  | .raise .. => "Raise"
  | .try _ isStar .. => if isStar then "TryStar" else "Try"
  | .assert .. => "Assert"
  | .importModules .. => "Import"
  | .importFrom .. => "ImportFrom"
  | .globals .. => "Global"
  | .nonlocals .. => "Nonlocal"
  | .expr .. => "Expr"
  | .pass .. => "Pass"
  | .break .. => "Break"
  | .continue .. => "Continue"

def Node.kind : Node → String
  | .stmt s => s.kind
  | .expr e => e.kind
  | .comprehension _ => "comprehension"
  | .keyword _ => "keyword"
  | .params _ => "arguments"
  | .param _ => "arg"
  | .imported _ => "alias"
  | .withItem _ => "withitem"
  | .pattern p => p.kind
  | .handler _ => "ExceptHandler"
  | .matchCase _ => "match_case"
  | .use u => u.kind
  | .boolOp op => op.kind
  | .binaryOp op => op.kind
  | .unaryOp op => op.kind
  | .compareOp op => op.kind

def Node.pos? : Node → Option Pos
  | .stmt s => some s.pos
  | .expr e => some e.pos
  | .keyword (.mk pos _ _) => some pos
  | .param p => some p.pos
  | .imported a => some a.pos
  | .pattern p => some p.pos
  | .handler (.mk pos _ _ _) => some pos
  | .comprehension _ | .params _ | .withItem _ | .matchCase _ | .use _ | .boolOp _ | .binaryOp _
  | .unaryOp _ | .compareOp _ => none

def exprField (e : Expr) : Field := .node (.expr e)

def exprField? (e : Option Expr) : Field := .optional (e.map .expr)

def exprsField (es : List Expr) : Field := .nodes (es.map .expr)

def stmtsField (ss : List Stmt) : Field := .nodes (ss.map .stmt)

def Expr.fields : Expr → List (String × Field)
  | .boolOp _ op values => [("op", .node (.boolOp op)), ("values", exprsField values)]
  | .named _ target value => [("target", exprField target), ("value", exprField value)]
  | .binary _ left op right =>
    [("left", exprField left), ("op", .node (.binaryOp op)), ("right", exprField right)]
  | .unary _ op operand => [("op", .node (.unaryOp op)), ("operand", exprField operand)]
  | .lambda _ params body => [("args", .node (.params params)), ("body", exprField body)]
  | .conditional _ test body orelse =>
    [("test", exprField test), ("body", exprField body), ("orelse", exprField orelse)]
  | .dict _ keys values =>
    [("keys", .optionals (keys.map (·.map .expr))), ("values", exprsField values)]
  | .set _ elements => [("elts", exprsField elements)]
  | .listComp _ element generators =>
    [("elt", exprField element), ("generators", .nodes (generators.map .comprehension))]
  | .setComp _ element generators =>
    [("elt", exprField element), ("generators", .nodes (generators.map .comprehension))]
  | .dictComp _ key value generators =>
    [("key", exprField key), ("value", exprField value),
      ("generators", .nodes (generators.map .comprehension))]
  | .generator _ element generators =>
    [("elt", exprField element), ("generators", .nodes (generators.map .comprehension))]
  | .await _ value => [("value", exprField value)]
  | .yield _ value => [("value", exprField? value)]
  | .yieldFrom _ value => [("value", exprField value)]
  | .compare _ left ops comparators =>
    [("left", exprField left), ("ops", .nodes (ops.map .compareOp)),
      ("comparators", exprsField comparators)]
  | .call _ func args keywords =>
    [("func", exprField func), ("args", exprsField args),
      ("keywords", .nodes (keywords.map .keyword))]
  | .formatted _ value conversion spec =>
    [("value", exprField value), ("conversion", .number conversion),
      ("format_spec", exprField? spec)]
  | .joined _ values => [("values", exprsField values)]
  | .constant _ value kind => [("value", .constant value), ("kind", .text kind)]
  | .attribute _ value attr use =>
    [("value", exprField value), ("attr", .text (some attr)), ("ctx", .node (.use use))]
  | .subscript _ value index use =>
    [("value", exprField value), ("slice", exprField index), ("ctx", .node (.use use))]
  | .starred _ value use => [("value", exprField value), ("ctx", .node (.use use))]
  | .name _ id use => [("id", .text (some id)), ("ctx", .node (.use use))]
  | .list _ elements use => [("elts", exprsField elements), ("ctx", .node (.use use))]
  | .tuple _ elements use => [("elts", exprsField elements), ("ctx", .node (.use use))]
  | .slice _ lower upper step =>
    [("lower", exprField? lower), ("upper", exprField? upper), ("step", exprField? step)]

def Pattern.fields : Pattern → List (String × Field)
  | .value _ v => [("value", exprField v)]
  | .singleton _ v => [("value", .constant v)]
  | .sequence _ patterns => [("patterns", .nodes (patterns.map .pattern))]
  | .mapping _ keys patterns rest =>
    [("keys", exprsField keys), ("patterns", .nodes (patterns.map .pattern)), ("rest", .text rest)]
  | .class _ cls patterns names namedPatterns =>
    [("cls", exprField cls), ("patterns", .nodes (patterns.map .pattern)),
      ("kwd_attrs", .texts names), ("kwd_patterns", .nodes (namedPatterns.map .pattern))]
  | .star _ name => [("name", .text name)]
  | .capture _ pattern name =>
    [("pattern", .optional (pattern.map .pattern)), ("name", .text name)]
  | .alternatives _ patterns => [("patterns", .nodes (patterns.map .pattern))]

def Stmt.fields : Stmt → List (String × Field)
  | .function _ _ name params body decorators returns =>
    [("name", .text (some name)), ("args", .node (.params params)), ("body", stmtsField body),
      ("decorator_list", exprsField decorators), ("returns", exprField? returns)]
  | .class _ name bases keywords body decorators =>
    [("name", .text (some name)), ("bases", exprsField bases),
      ("keywords", .nodes (keywords.map .keyword)), ("body", stmtsField body),
      ("decorator_list", exprsField decorators)]
  | .return _ value => [("value", exprField? value)]
  | .delete _ targets => [("targets", exprsField targets)]
  | .assign _ targets value => [("targets", exprsField targets), ("value", exprField value)]
  | .augAssign _ target op value =>
    [("target", exprField target), ("op", .node (.binaryOp op)), ("value", exprField value)]
  | .annAssign _ target hint value simple =>
    [("target", exprField target), ("annotation", exprField hint), ("value", exprField? value),
      ("simple", .number (if simple then 1 else 0))]
  | .for _ _ target iter body orelse =>
    [("target", exprField target), ("iter", exprField iter), ("body", stmtsField body),
      ("orelse", stmtsField orelse)]
  | .while _ test body orelse =>
    [("test", exprField test), ("body", stmtsField body), ("orelse", stmtsField orelse)]
  | .if _ test body orelse =>
    [("test", exprField test), ("body", stmtsField body), ("orelse", stmtsField orelse)]
  | .with _ _ items body => [("items", .nodes (items.map .withItem)), ("body", stmtsField body)]
  | .match _ subject cases =>
    [("subject", exprField subject), ("cases", .nodes (cases.map .matchCase))]
  | .raise _ exception cause => [("exc", exprField? exception), ("cause", exprField? cause)]
  | .try _ _ body handlers orelse final =>
    [("body", stmtsField body), ("handlers", .nodes (handlers.map .handler)),
      ("orelse", stmtsField orelse), ("finalbody", stmtsField final)]
  | .assert _ test message => [("test", exprField test), ("msg", exprField? message)]
  | .importModules _ names => [("names", .nodes (names.map .imported))]
  | .importFrom _ module names level =>
    [("module", .text module), ("names", .nodes (names.map .imported)), ("level", .number level)]
  | .globals _ names => [("names", .texts names)]
  | .nonlocals _ names => [("names", .texts names)]
  | .expr _ value => [("value", exprField value)]
  | .pass _ | .break _ | .continue _ => []

def Params.fields : Params → List (String × Field)
  | .mk positionalOnly positional rest keywordOnly keywordDefaults keywordRest defaults =>
    [("posonlyargs", .nodes (positionalOnly.map .param)), ("args", .nodes (positional.map .param)),
      ("vararg", .optional (rest.map .param)), ("kwonlyargs", .nodes (keywordOnly.map .param)),
      ("kw_defaults", .optionals (keywordDefaults.map (·.map .expr))),
      ("kwarg", .optional (keywordRest.map .param)), ("defaults", exprsField defaults)]

def Node.fields : Node → List (String × Field)
  | .stmt s => s.fields
  | .expr e => e.fields
  | .comprehension (.mk target iter conditions isAsync) =>
    [("target", exprField target), ("iter", exprField iter), ("ifs", exprsField conditions),
      ("is_async", .number (if isAsync then 1 else 0))]
  | .keyword (.mk _ name value) => [("arg", .text name), ("value", exprField value)]
  | .params p => p.fields
  | .param (.mk _ name hint) => [("arg", .text (some name)), ("annotation", exprField? hint)]
  | .imported a => [("name", .text (some a.name)), ("asname", .text a.asName)]
  | .withItem w => [("context_expr", exprField w.manager), ("optional_vars", exprField? w.target)]
  | .pattern p => p.fields
  | .handler (.mk _ type name body) =>
    [("type", exprField? type), ("name", .text name), ("body", stmtsField body)]
  | .matchCase (.mk p guard body) =>
    [("pattern", .node (.pattern p)), ("guard", exprField? guard), ("body", stmtsField body)]
  | .use _ | .boolOp _ | .binaryOp _ | .unaryOp _ | .compareOp _ => []

def Node.children (n : Node) : List Node := n.fields.flatMap (·.2.children)

def Node.isDeeperThan : Nat → Node → Bool
  | 0, _ => true
  | n + 1, node => node.children.any (isDeeperThan n)

def Module.nodes (m : Module) : List Node := m.body.map .stmt

end PluginBuild.Script
