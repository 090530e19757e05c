import PluginBuild.Code.Fault

/-!
The names of each scope and the part they have in it. A module, a class body, a function and a
comprehension each have a scope of their own. Within a class, names with two underscores in front
are its own: they get the name of the class in front.
-/

namespace PluginBuild.Code

open PluginBuild.Script PluginBuild.Text

inductive Role where
  | assigned
  | parameter
  | imported
  | annotated
  | used
  | declared (reach : Reach)
  | iteration
  deriving DecidableEq, Repr

inductive ScopeKind where
  | module
  | function
  | classBody
  | comprehension (kind : Collection)
  | hint
  deriving DecidableEq, Repr

/-- A scope: the roles of its names and the lines of their declarations, first things first, and the
scopes right inside it. -/
inductive Scope where
  | mk (kind : ScopeKind) (roles : List (String × Role)) (declarations : List (String × Nat))
      (inner : List Scope)

structure Frame where
  kind : ScopeKind
  roles : List (String × Role)
  declarations : List (String × Nat)
  inner : List Scope
  inSource : Bool
  inTarget : Bool

def Frame.rolesOf (f : Frame) (name : String) : List Role :=
  f.roles.filterMap fun (other, role) => if other = name then some role else none

def Frame.insert (f : Frame) (name : String) (role : Role) : Frame :=
  if (name, role) ∈ f.roles then f else { f with roles := (name, role) :: f.roles }

def Frame.close (f : Frame) : Scope :=
  .mk f.kind f.roles.reverse f.declarations.reverse f.inner.reverse

/-- Where names are read: the class around, and whether hints are kept as text and hold no code. -/
structure Naming where
  owner : Option String
  hintsAreText : Bool

def Naming.resolve (n : Naming) (word : String) : String :=
  match n.owner.map fun owner => owner.toList.dropWhile (· == '_') with
  | some (c :: owner) =>
    if startsWith word "__" && !endsWith word "__" && !word.toList.contains '.' then
      "_" ++ String.ofList (c :: owner) ++ word
    else word
  | _ => word

abbrev Reading := StateT (List Frame) (Except Fault)

namespace Reading

def fail {α : Type} (m : Mistake) (pos : Pos) : Reading α := throw (.mistake m pos.line)

def change (f : Frame → Frame) : Reading Unit := modify fun
  | [] => []
  | frame :: outer => f frame :: outer

def ask {α : Type} (f : Frame → α) (otherwise : α) : Reading α :=
  return ((← get).head?.map f).getD otherwise

def changeModule (f : Frame → Frame) : Reading Unit := modify fun frames =>
  match frames.reverse with
  | [] => []
  | module :: inner => (f module :: inner).reverse

/-- Gives a name a role in the scope that lies so many scopes further out. A name that a global
declaration names is one of the module, too. -/
def addAt (depth : Nat) (n : Naming) (word : String) (role : Role) (pos : Pos) : Reading Unit := do
  let name := n.resolve word
  match (← get)[depth]? with
  | none => return
  | some frame =>
    let roles := frame.rolesOf name
    if role = .parameter ∧ .parameter ∈ roles then fail (.duplicateParameter word) pos
    if frame.inTarget ∧ roles.any (fun r => r matches .declared _) then
      fail (.targetRebindsNamed word) pos
    let frame := frame.insert name role
    let frame := if frame.inTarget then frame.insert name .iteration else frame
    modify (·.set depth frame)
    if role = .declared .global then changeModule (·.insert name role)

def add (n : Naming) (word : String) (role : Role) (pos : Pos) : Reading Unit :=
  addAt 0 n word role pos

def declare (n : Naming) (word : String) (pos : Pos) : Reading Unit :=
  change fun f => { f with declarations := (n.resolve word, pos.line) :: f.declarations }

def within (kind : ScopeKind) (body : Reading Unit) : Reading Unit := do
  let inSource ← ask (·.inSource) false
  modify (⟨kind, [], [], [], inSource, false⟩ :: ·)
  body
  modify fun
    | [] => []
    | frame :: outer =>
      match outer with
      | [] => [frame]
      | parent :: rest =>
        if kind = .hint then outer else { parent with inner := frame.close :: parent.inner } :: rest

def source (body : Reading Unit) : Reading Unit := do
  let before ← ask (·.inSource) false
  change ({ · with inSource := true })
  body
  change ({ · with inSource := before })

def target (body : Reading Unit) : Reading Unit := do
  change ({ · with inTarget := true })
  body
  change ({ · with inTarget := false })

def outsideHint (what : String) (pos : Pos) : Reading Unit := do
  if (← ask (·.kind) .module) = .hint then fail (.inHint what) pos

def outsideComprehension (pos : Pos) : Reading Unit := do
  match ← ask (·.kind) .module with
  | .comprehension kind => fail (.yieldInside kind) pos
  | _ => return

/-- A name that is assigned in a comprehension belongs to the nearest scope around that is no
comprehension. -/
def extendNamed (n : Naming) (word : String) (pos : Pos) : Nat → List Frame → Reading Unit
  | _, [] => return
  | depth, frame :: outer => do
    match frame.kind with
    | .comprehension _ =>
      if .iteration ∈ frame.rolesOf word then fail (.namedRebindsTarget word) pos
      extendNamed n word pos (depth + 1) outer
    | .hint => extendNamed n word pos (depth + 1) outer
    | .classBody => fail .namedInClass pos
    | .function =>
      let isGlobal := .declared .global ∈ frame.rolesOf word
      add n word (.declared (if isGlobal then .global else .nonlocal)) pos
      declare n word pos
      addAt depth n word .assigned pos
    | .module =>
      add n word (.declared .global) pos
      declare n word pos

def named (n : Naming) (target : Term) (body : Reading Unit) (pos : Pos) : Reading Unit := do
  outsideHint "named expression" pos
  if ← ask (·.inSource) false then fail .namedInSource pos
  match target, ← ask (·.kind) .module with
  | .name p id _, .comprehension _ => extendNamed n id p 0 (← get)
  | _, _ => pure ()
  body

def declareAll (n : Naming) (reach : Reach) (pos : Pos) : List String → Reading Unit
  | [] => return
  | word :: rest => do
    let roles ← ask (·.rolesOf (n.resolve word)) []
    if .parameter ∈ roles then fail (.parameterDeclared word reach) pos
    if .used ∈ roles then fail (.usedBefore word reach) pos
    if .annotated ∈ roles then fail (.annotatedDeclared word reach) pos
    if .assigned ∈ roles then fail (.assignedBefore word reach) pos
    add n word (.declared reach) pos
    declare n word pos
    declareAll n reach pos rest

end Reading

mutual

def Term.read (n : Naming) : Term → Reading Unit
  | .value .. => return
  | .name pos id use => do
    Reading.add n id (if use = .load then .used else .assigned) pos
    if use = .load ∧ id = "super" then
      match ← Reading.ask (·.kind) .module with
      | .function | .comprehension _ => Reading.add n "__class__" .used pos
      | _ => return
  | .attribute _ object _ _ => object.read n
  | .subscript _ object index _ => do object.read n; index.read n
  | .compare _ _ operands => readTerms n operands
  | .call _ function args _ => do function.read n; readTerms n args
  | .display _ _ items _ => readTerms n items
  | .starred _ item _ => item.read n
  | .named pos target value => Reading.named n target (do value.read n; target.read n) pos
  | .lambda _ params defaults body => do
    readTerms n defaults
    Reading.within .function do
      params.forM fun (word, pos) => Reading.add n word .parameter pos
      body.read n
  | .comprehension pos kind source target conditions _ more items => do
    Reading.source (source.read n)
    Reading.within (.comprehension kind) do
      Reading.add n ".0" .parameter pos
      Reading.target (target.read n)
      readTerms n conditions
      readGenerators n more
      readBackward n items
  | .await pos value => do
    Reading.outsideHint "await expression" pos
    value.read n
  | .yield pos values => do
    Reading.outsideHint "yield expression" pos
    readTerms n values
    Reading.outsideComprehension pos
  | .yieldFrom pos value => do
    Reading.outsideHint "yield expression" pos
    value.read n
    Reading.outsideComprehension pos
  | .group _ parts => readTerms n parts

def readTerms (n : Naming) : List Term → Reading Unit
  | [] => return
  | t :: rest => do t.read n; readTerms n rest

def readBackward (n : Naming) : List Term → Reading Unit
  | [] => return
  | t :: rest => do readBackward n rest; t.read n

def readGenerators (n : Naming) : List Generator → Reading Unit
  | [] => return
  | .mk target source conditions _ :: rest => do
    Reading.target (target.read n)
    Reading.source (source.read n)
    readTerms n conditions
    readGenerators n rest

end

namespace Reading

def expr? (n : Naming) : Option Expr → Reading Unit
  | none => return
  | some e => e.term.read n

def exprs (n : Naming) (es : List Expr) : Reading Unit := es.forM (·.term.read n)

def keywords (n : Naming) (ks : List Keyword) : Reading Unit := ks.forM (·.value.term.read n)

def hint (n : Naming) (body : Reading Unit) : Reading Unit :=
  if n.hintsAreText then within .hint body else body

def header (n : Naming) (params : Params) (returns : Option Expr) : Reading Unit := do
  match params with
  | .mk positionalOnly positional rest keywordOnly keywordDefaults keywordRest defaults =>
    exprs n defaults
    keywordDefaults.forM (expr? n)
    hint n do
      (positionalOnly ++ positional ++ rest.toList ++ keywordRest.toList ++ keywordOnly).forM
        fun (.mk _ _ h) => expr? n h
    match returns with
    | none => return
    | some e => hint n (e.term.read n)

def bindImported (n : Naming) (a : Alias) : Reading Unit := do
  let name := a.asName.getD a.name
  if name = "*" then
    if (← ask (·.kind) .module) ≠ .module then fail .starImport a.pos
  else add n (String.ofList (name.toList.takeWhile (· != '.'))) .imported a.pos

def hinted (n : Naming) (pos : Pos) (target : Expr) (simple hasValue : Bool) : Reading Unit := do
  match target with
  | .name p word _ =>
    let roles ← ask (·.rolesOf (n.resolve word)) []
    let kind ← ask (·.kind) .module
    if simple && kind != .module then
      if .declared .global ∈ roles then fail (.annotatedDeclared word .global) pos
      if .declared .nonlocal ∈ roles then fail (.annotatedDeclared word .nonlocal) pos
    if simple then
      add n word .annotated p
      add n word .assigned p
    else if hasValue then add n word .assigned p
  | target => target.term.read n

end Reading

mutual

def readPattern (n : Naming) : Pattern → Reading Unit
  | .value _ value => value.term.read n
  | .singleton .. => return
  | .sequence _ patterns => readPatterns n patterns
  | .mapping pos keys patterns rest => do
    Reading.exprs n keys
    readPatterns n patterns
    rest.forM (Reading.add n · .assigned pos)
  | .class _ cls patterns _ namedPatterns => do
    cls.term.read n
    readPatterns n patterns
    readPatterns n namedPatterns
  | .star pos name => name.forM (Reading.add n · .assigned pos)
  | .capture pos pattern name => do
    readPattern? n pattern
    name.forM (Reading.add n · .assigned pos)
  | .alternatives _ patterns => readPatterns n patterns

def readPatterns (n : Naming) : List Pattern → Reading Unit
  | [] => return
  | p :: rest => do readPattern n p; readPatterns n rest

def readPattern? (n : Naming) : Option Pattern → Reading Unit
  | none => return
  | some p => readPattern n p

end

mutual

def readStmt (n : Naming) : Stmt → Reading Unit
  | .function pos _ name params body decorators returns => do
    Reading.add n name .assigned pos
    Reading.header n params returns
    Reading.exprs n decorators
    Reading.within .function do
      params.bound.forM fun (word, pos) => Reading.add n word .parameter pos
      readStmts n body
  | .class pos name bases keywords body decorators => do
    Reading.add n name .assigned pos
    Reading.exprs n bases
    Reading.keywords n keywords
    Reading.exprs n decorators
    Reading.within .classBody (readStmts { n with owner := some name } body)
  | .return _ value => Reading.expr? n value
  | .delete _ targets => Reading.exprs n targets
  | .assign _ targets value => do Reading.exprs n targets; value.term.read n
  | .augAssign _ target _ value => do target.term.read n; value.term.read n
  | .annAssign pos target hint value simple => do
    Reading.hinted n pos target simple value.isSome
    Reading.hint n (hint.term.read n)
    Reading.expr? n value
  | .for _ _ target iter body orelse => do
    target.term.read n
    iter.term.read n
    readStmts n body
    readStmts n orelse
  | .while _ test body orelse | .if _ test body orelse => do
    test.term.read n
    readStmts n body
    readStmts n orelse
  | .with _ _ items body => do
    items.forM fun item => do
      item.manager.term.read n
      Reading.expr? n item.target
    readStmts n body
  | .match _ subject cases => do
    subject.term.read n
    readCases n cases
  | .raise _ exception cause => do
    Reading.expr? n exception
    Reading.expr? n cause
  | .try _ _ body handlers orelse final => do
    readStmts n body
    readStmts n orelse
    readHandlers n handlers
    readStmts n final
  | .assert _ test message => do
    test.term.read n
    Reading.expr? n message
  | .importModules _ names | .importFrom _ _ names _ => names.forM (Reading.bindImported n)
  | .globals pos names => Reading.declareAll n .global pos names
  | .nonlocals pos names => Reading.declareAll n .nonlocal pos names
  | .expr _ value => value.term.read n
  | .pass _ | .break _ | .continue _ => return

def readStmts (n : Naming) : List Stmt → Reading Unit
  | [] => return
  | s :: rest => do readStmt n s; readStmts n rest

def readHandlers (n : Naming) : List Handler → Reading Unit
  | [] => return
  | .mk pos type name body :: rest => do
    Reading.expr? n type
    name.forM (Reading.add n · .assigned pos)
    readStmts n body
    readHandlers n rest

def readCases (n : Naming) : List MatchCase → Reading Unit
  | [] => return
  | .mk pattern guard body :: rest => do
    readPattern n pattern
    Reading.expr? n guard
    readStmts n body
    readCases n rest

end

def Scope.ofModule (m : Module) (hintsAreText : Bool) : Except Fault Scope := do
  let start : Frame := ⟨.module, [], [], [], false, false⟩
  let (_, frames) ← (readStmts ⟨none, hintsAreText⟩ m.body).run [start]
  return (frames.headD start).close

end PluginBuild.Code
