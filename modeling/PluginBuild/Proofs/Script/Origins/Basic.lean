import PluginBuild.Proofs.Passing
import PluginBuild.Proofs.Script.Frames

/-!
Where the parts of a tree come from. A node begins at a token, and the name of an imported module is made
of names among the tokens; the expression in a field of a formatted string has tokens of its own. So what
is known of all tokens is known of all nodes.
-/

namespace PluginBuild.Script

/-- A field among the parts of a formatted string, be it in the format of another one. -/
inductive HoldsField (brace : Pos) (text : List Char) : List FormatPart → Prop where
  | here {shown : Option (List Char)} {conversion : Option Char} {spec : Option (List FormatPart)}
      {rest : List FormatPart} : HoldsField brace text (.field brace text shown conversion spec :: rest)
  | inside {place : Pos} {expression : List Char} {shown : Option (List Char)} {conversion : Option Char}
      {parts rest : List FormatPart} (inner : HoldsField brace text parts) :
      HoldsField brace text (.field place expression shown conversion (some parts) :: rest)
  | behind {part : FormatPart} {rest : List FormatPart} (later : HoldsField brace text rest) :
      HoldsField brace text (part :: rest)

/-- Where the body of a string begins that a token is. -/
def Token.bodySpot (t : Token) : Spot :=
  (Spot.mk t.text.toList t.pos).forward (StringLiteral.read t.text).bodyStart

/-- A field of the formatted string that a token is. -/
def Token.HoldsField (t : Token) (brace : Pos) (text : List Char) : Prop :=
  ∃ parts, splitFormat (StringLiteral.read t.text).isRaw t.bodySpot.pos (StringLiteral.read t.text).body =
    .ok parts ∧ Script.HoldsField brace text parts

/-- The tokens that the expression in a field is read from. -/
def fieldTokens (brace : Pos) (text : List Char) : Tokens :=
  Lexer.run { Lexer.State.initial ('(' :: text ++ [')', '\n']) with
    line := brace.line, column := brace.column, chars := brace.column }

/-- Kinds of places, of names and of tokens. Tokens of the kind begin at such places and are such names, and
the tokens in the fields of their strings are of the kind as well. -/
structure Origin where
  place : Pos → Prop
  name : String → Prop
  tokens : Tokens → Prop
  joined : ∀ {a b}, name a → name b → name (a ++ "." ++ b)
  placed : ∀ {ts}, tokens ts → ∀ t ∈ ts.list, place t.pos
  named : ∀ {ts}, tokens ts → ∀ t ∈ ts.list, t.kind = .name → name (identifierOf t.text)
  inner : ∀ {ts}, tokens ts → ∀ t ∈ ts.list, t.kind = .string → ∀ {brace text}, t.HoldsField brace text →
    tokens (fieldTokens brace text)

/-- A node that begins at a place of the kind and asks for modules of the kind only, as do all nodes below. -/
inductive Node.ComesFrom (o : Origin) : Node → Prop where
  | mk {n : Node} (place : ∀ pos ∈ n.pos?, o.place pos) (modules : ∀ module ∈ neededModules n, o.name module)
      (below : ∀ m ∈ n.children, m.ComesFrom o) : n.ComesFrom o

@[simp] theorem Node.forall_or {one two holds : Node → Prop} :
    (∀ m, one m ∨ two m → holds m) ↔ (∀ m, one m → holds m) ∧ ∀ m, two m → holds m :=
  ⟨fun both => ⟨fun m first => both m (.inl first), fun m second => both m (.inr second)⟩,
    fun ⟨first, second⟩ m either => either.elim (first m) (second m)⟩

abbrev Expr.ComesFrom (o : Origin) (e : Expr) : Prop := (Node.expr e).ComesFrom o

abbrev Pattern.ComesFrom (o : Origin) (p : Pattern) : Prop := (Node.pattern p).ComesFrom o

abbrev Stmt.ComesFrom (o : Origin) (s : Stmt) : Prop := (Node.stmt s).ComesFrom o

section
variable {o : Origin}

namespace Node.ComesFrom

theorem of_mem_walk {pending : List Node} (all : ∀ m ∈ pending, m.ComesFrom o) :
    ∀ n ∈ walk pending, n.ComesFrom o := by
  fun_induction walk pending with
  | case1 => exact nofun
  | case2 m pending ih =>
    have first := all m List.mem_cons_self
    intro n member
    rcases List.mem_cons.mp member with rfl | later
    · exact first
    · refine ih (fun r among => ?_) n later
      rcases List.mem_append.mp among with old | new
      · exact all r (List.mem_cons_of_mem m old)
      · obtain ⟨-, -, below⟩ := first
        exact below r new

theorem parts {n : Node} (comes : n.ComesFrom o) : ∀ m ∈ n.children, m.ComesFrom o := by
  obtain ⟨-, -, below⟩ := comes
  exact below

theorem expr {e : Expr} (place : o.place e.pos) (below : ∀ m ∈ (Node.expr e).children, m.ComesFrom o) :
    e.ComesFrom o := by
  refine ⟨fun pos same => ?_, nofun, below⟩
  obtain rfl : e.pos = pos := Option.some.inj same
  exact place

theorem place_expr {e : Expr} (comes : e.ComesFrom o) : o.place e.pos := by
  obtain ⟨place, -, -⟩ := comes
  exact place e.pos rfl

theorem pattern {p : Pattern} (place : o.place p.pos)
    (below : ∀ m ∈ (Node.pattern p).children, m.ComesFrom o) : p.ComesFrom o := by
  refine ⟨fun pos same => ?_, nofun, below⟩
  obtain rfl : p.pos = pos := Option.some.inj same
  exact place

theorem stmt {s : Stmt} (none : neededModules (.stmt s) = []) (place : o.place s.pos)
    (below : ∀ m ∈ (Node.stmt s).children, m.ComesFrom o) : s.ComesFrom o := by
  refine ⟨fun pos same => ?_, fun module member => ?_, below⟩
  · obtain rfl : s.pos = pos := Option.some.inj same
    exact place
  · rw [none] at member
    exact nomatch member

theorem keyword {pos : Pos} {name : Option String} {e : Expr} (place : o.place pos) (value : e.ComesFrom o) :
    (Node.keyword (.mk pos name e)).ComesFrom o := by
  refine ⟨fun p same => ?_, nofun, fun m member => ?_⟩
  · obtain rfl : pos = p := Option.some.inj same
    exact place
  · obtain rfl : m = .expr e := by simpa [children, fields, Field.children, exprField] using member
    exact value

end Node.ComesFrom
end

end PluginBuild.Script
