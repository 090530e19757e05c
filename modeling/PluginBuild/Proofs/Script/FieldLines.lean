import PluginBuild.Proofs.Script.TokenLines

/-!
The lines of the fields in a formatted string. The scan of its body moves on from spot to spot, and the
expression in a field is what lies between two of them.
-/

namespace PluginBuild.Script

/-- A stretch whose first line is not above the spot, and whose last line is not below the text ahead. -/
structure Spot.Covers (s : Spot) (place : Pos) (text : List Char) : Prop where
  first : s.pos.line ≤ place.line
  last : place.line + text.count '\n' ≤ s.endLine

theorem Spot.Leads.covers {s t : Spot} (leads : s.Leads t) {place : Pos} {text : List Char}
    (covers : t.Covers place text) : s.Covers place text :=
  ⟨Nat.le_trans leads.line_le covers.first, leads.endLine ▸ covers.last⟩

def Finds {α : Type} (good : α → Prop) (task : Except String α) : Prop := ∀ a, task = .ok a → good a

namespace Finds

variable {α β : Type} {good weaker : α → Prop} {fine : β → Prop} {task : Except String α}

theorem ok {a : α} (fit : good a) : Finds good (.ok a) := by
  rintro _ ⟨⟩
  exact fit

theorem error (message : String) : Finds good (.error message) := nofun

theorem mono (found : Finds good task) (implies : ∀ a, good a → weaker a) : Finds weaker task :=
  fun a done => implies a (found a done)

theorem bind {next : α → Except String β} (first : Finds good task)
    (second : ∀ a, good a → Finds fine (next a)) :
    Finds fine (task >>= next) := by
  intro b done
  obtain ⟨a, found, rest⟩ := bind_ok done
  exact second a (first a found) b rest

theorem ite {p : Prop} [Decidable p] {one two : Except String α} (yes : Finds good one) (no : Finds good two) :
    Finds good (if p then one else two) := by
  split
  · exact yes
  · exact no

theorem stop (message : String) (next : α → Except String β) : Finds fine (throw message >>= next) := nofun

end Finds

theorem literalText_leads (isRaw nested : Bool) (fuel : Nat) (done : List Char) (s : Spot) :
    Finds (fun read => s.Leads read.2.2) (literalText isRaw nested fuel done s) := by
  have twice : ∀ s : Spot, s.Leads s.next.next := fun s => s.leads_next.trans s.next.leads_next
  -- At a brace the text ends: behind the second one if it is doubled, and otherwise in front of it.
  have brace : ∀ {c : Char} {done : List Char} {s : Spot} {found : List Char × Bool × Spot},
      (if c = '\x7b' ∨ c = '\x7d' then
        if (!nested && s.next.rest.head? == some c) = true then
          Except.ok (some ((c :: done).reverse, true, s.next.next))
        else if (!nested && c == '\x7d') = true then .error "f-string: single '\x7d' is not allowed"
        else .ok (some (done.reverse, false, s))
      else .ok none) = .ok (some found) → s.Leads found.2.2 := by
    intro c done s found same
    split at same
    · split at same
      · cases same
        exact twice s
      · split at same <;> cases same
        exact .refl s
    · cases same
  induction fuel generalizing done s with
  | zero => exact .ok (.refl s)
  | succ fuel ih =>
    have onward : ∀ {done next}, s.Leads next → Finds (fun read => s.Leads read.2.2)
        (literalText isRaw nested fuel done next) := fun leads => (ih _ _).mono fun _ further =>
          leads.trans further
    unfold literalText
    dsimp only
    split
    · exact .ok (.refl s)
    · split
      · split
        · exact onward s.leads_next
        · exact onward (s.leads_forward _)
        · exact onward (s.leads_forward _)
        · split
          · exact .error _
          · exact .ok (s.leads_next.trans (brace ‹_›))
          · exact onward (twice s)
      · split
        · exact .error _
        · exact .ok (brace ‹_›)
        · exact onward s.leads_next

theorem expressionText_forward (fuel : Nat) (scan : FieldScan) (done : List Char) (s : Spot) :
    Finds (fun read => ∃ n, read.2 = s.forward n ∧ read.1 = done.reverse ++ s.rest.take n)
      (expressionText fuel scan done s) := by
  induction fuel generalizing scan done s with
  | zero => exact .ok ⟨0, rfl, by simp⟩
  | succ fuel ih =>
    have onward : ∀ scan count, Finds
        (fun read => ∃ n, read.2 = s.forward n ∧ read.1 = done.reverse ++ s.rest.take n)
        (expressionText fuel scan ((s.rest.take count).reverse ++ done) (s.forward count)) := by
      intro scan count read found
      obtain ⟨n, behind, text⟩ := ih scan _ _ _ found
      refine ⟨count + n, behind.trans (s.forward_forward count n), text.trans ?_⟩
      rw [Spot.forward_rest, List.take_add]
      simp
    unfold expressionText
    dsimp only
    repeat' split
    all_goals first
      | exact onward _ _
      | exact .error _
      | exact .ok ⟨0, rfl, by simp⟩

/-- Parts that are found on the way from one spot to another. -/
def Spot.Cuts (s : Spot) (found : List FormatPart × Spot) : Prop :=
  s.Leads found.2 ∧ ∀ {place text}, HoldsField place text found.1 → s.Covers place text

section
variable {isRaw : Bool} {fuel : Nat} (ih : ∀ depth s, Finds s.Cuts (formatParts isRaw depth fuel s))
  {before : List FormatPart}
  (plain : ∀ {place text rest}, HoldsField place text (before ++ rest) → HoldsField place text rest)
  {s w : Spot} {brace : Pos} {e : List Char} (here : s.Covers brace e)
include ih plain here

theorem fieldEnd_cuts (reached : s.Leads w) (depth : Nat) (shown : Option (List Char))
    (conversion : Option Char)
    {spec : Option (List FormatPart)}
    (inside : ∀ parts ∈ spec, ∀ {place text}, HoldsField place text parts → s.Covers place text) :
    Finds s.Cuts (match w.rest with
      | '\x7d' :: _ => do
        let (parts, u) ← formatParts isRaw depth fuel w.next
        return (before ++ .field brace e shown conversion spec :: parts, u)
      | _ => throw "f-string: expecting '\x7d'") := by
  split
  · have behind := reached.trans w.leads_next
    refine .bind (ih depth w.next) fun (parts, u) ⟨leads, covers⟩ => .ok ⟨behind.trans leads, fun holds => ?_⟩
    cases plain holds with
    | here => exact here
    | inside inner => exact inside _ rfl inner
    | behind later => exact behind.covers (covers later)
  · exact .error _

theorem fieldFormat_cuts (reached : s.Leads w) (depth : Nat) (shown : Option (List Char))
    (conversion : Option Char) :
    Finds s.Cuts (do
      let (spec, u) ← match w.rest with
        | ':' :: _ => do
          let (parts, u) ← formatParts isRaw (depth + 1) fuel w.next
          pure (some parts, u)
        | _ => pure (none, w)
      match u.rest with
      | '\x7d' :: _ => do
        let (parts, v) ← formatParts isRaw depth fuel u.next
        return (before ++ .field brace e shown conversion spec :: parts, v)
      | _ => throw "f-string: expecting '\x7d'") := by
  dsimp only
  split
  · have behind := reached.trans w.leads_next
    refine .bind (ih (depth + 1) w.next) fun (parts, u) ⟨leads, covers⟩ => ?_
    refine fieldEnd_cuts ih plain here (behind.trans leads) depth shown conversion ?_
    rintro _ ⟨⟩ _ _ holds
    exact behind.covers (covers holds)
  · exact fieldEnd_cuts ih plain here reached depth shown conversion nofun

theorem fieldConversion_cuts (depth : Nat) (p : Option (List Char) × Spot) (reached : s.Leads p.2) :
    Finds s.Cuts (do
      let (shown, w) := p
      let (conversion, w) ← match w.rest with
        | '!' :: c :: _ =>
          if c = 's' ∨ c = 'r' ∨ c = 'a' then pure (some c, w.next.next)
          else throw "f-string: invalid conversion character: expected 's', 'r', or 'a'"
        | '!' :: [] => throw "f-string: expecting '\x7d'"
        | _ => pure (none, w)
      let (spec, u) ← match w.rest with
        | ':' :: _ => do
          let (parts, u) ← formatParts isRaw (depth + 1) fuel w.next
          pure (some parts, u)
        | _ => pure (none, w)
      match u.rest with
      | '\x7d' :: _ => do
        let (parts, v) ← formatParts isRaw depth fuel u.next
        return (before ++ .field brace e shown conversion spec :: parts, v)
      | _ => throw "f-string: expecting '\x7d'") := by
  obtain ⟨shown, w⟩ := p
  dsimp only
  split
  · have behind := reached.trans (w.leads_next.trans w.next.leads_next)
    exact .ite (fieldFormat_cuts ih plain here behind depth shown _) (.stop _ _)
  · exact .stop _ _
  · exact fieldFormat_cuts ih plain here reached depth shown none

end

theorem formatParts_cuts (isRaw : Bool) (depth fuel : Nat) (s : Spot) :
    Finds s.Cuts (formatParts isRaw depth fuel s) := by
  induction fuel generalizing depth s with
  | zero =>
    refine .ok ⟨.refl s, fun holds => ?_⟩
    cases holds
  | succ fuel ih =>
    unfold formatParts
    refine .bind (literalText_leads _ _ _ _ _) fun read onward => ?_
    obtain ⟨text, doubled, t⟩ := read
    dsimp only at onward ⊢
    -- The text in front of a brace holds no field, so every field lies among the parts behind it.
    have plain : ∀ {place expression rest}, HoldsField place expression
        ((if text.isEmpty then [] else [FormatPart.literal text]) ++ rest) →
          HoldsField place expression rest := by
      intro place expression rest holds
      split at holds
      · exact holds
      · cases holds with
        | behind later => exact later
    refine .ite ?doubled ?field
    case doubled =>
      refine .bind (ih depth t) fun _ cuts => .ok ⟨onward.trans cuts.1, fun holds => ?_⟩
      exact onward.covers (cuts.2 (plain holds))
    case field =>
      split
      · refine .ite (.stop _ _) (.bind (expressionText_forward _ _ _ _) fun read forward => ?_)
        obtain ⟨e, v⟩ := read
        obtain ⟨n, there, text⟩ := forward
        refine .ite ?empty ?_
        case empty => split <;> exact .stop _ _
        have reached : s.Leads (t.next.forward n) := (onward.trans t.leads_next).trans (t.next.leads_forward n)
        -- The expression begins at the brace, and no more was read for it than lies ahead of the spot.
        have here : s.Covers t.pos e := by
          dsimp only at there text
          refine ⟨onward.line_le, ?_⟩
          have total := reached.endLine
          have further := t.next.forward_line n
          have begins := t.line_le_next
          rw [Spot.endLine] at total
          rw [text, List.reverse_nil, List.nil_append]
          omega
        refine fieldConversion_cuts ih plain here depth _ ?_
        dsimp only at there
        rw [there]
        split
        · exact reached.trans (Spot.leads_forward _ _)
        · exact reached
      · refine .ok ⟨onward, fun holds => ?_⟩
        rw [← List.append_nil (ite _ _ _)] at holds
        cases plain holds

theorem splitFormat_covers {isRaw : Bool} {start : Pos} {body : List Char} {parts : List FormatPart}
    (found : splitFormat isRaw start body = .ok parts) {place : Pos} {text : List Char}
    (holds : HoldsField place text parts) : Spot.Covers ⟨body, start⟩ place text := by
  unfold splitFormat at found
  cases read : formatParts isRaw 0 (body.length + 1) ⟨body, start⟩ with
  | error message =>
    rw [read] at found
    cases found
  | ok cut =>
    rw [read] at found
    cases found
    exact (formatParts_cuts isRaw 0 _ _ cut read).2 holds

theorem StringLiteral.body_leads (literal : String) :
    (StringLiteral.read literal).body <+: literal.toList.drop (StringLiteral.read literal).bodyStart := by
  unfold StringLiteral.read
  dsimp only
  rw [List.drop_drop]
  exact List.take_prefix _ _

/-- The expression in a field ends at the latest on the line on which its string does. -/
theorem Token.HoldsField.lines {t : Token} {brace : Pos} {text : List Char} (holds : t.HoldsField brace text) :
    t.line ≤ brace.line ∧ brace.line + text.count '\n' ≤ t.line + t.text.toList.count '\n' := by
  obtain ⟨parts, found, inner⟩ := holds
  obtain ⟨first, last⟩ := splitFormat_covers found inner
  have leads := Spot.leads_forward (StringLiteral.read t.text).bodyStart ⟨t.text.toList, t.pos⟩
  have begins : t.line ≤ t.bodySpot.pos.line := leads.line_le
  have ends : t.bodySpot.endLine = t.line + t.text.toList.count '\n' := leads.endLine
  have fewer : (StringLiteral.read t.text).body.count '\n' ≤ t.bodySpot.rest.count '\n' := by
    rw [Token.bodySpot, Spot.forward_rest]
    exact (StringLiteral.body_leads t.text).sublist.count_le '\n'
  unfold Spot.endLine at last ends
  dsimp only at first last
  omega

theorem isWithin_of_mem_fieldTokens {brace : Pos} {text : List Char} (first : 1 ≤ brace.line) {t : Token}
    (member : t ∈ (fieldTokens brace text).list) : t.IsWithin (brace.line + text.count '\n') := by
  have gives : Spot.Gives ⟨'(' :: text ++ [')', '\n'], brace⟩ t := Lexer.gives_of_mem_run rfl member
  have ended : ('(' :: text ++ [')', '\n']).getLast? = some '\n' := by
    rw [List.getLast?_append]
    rfl
  have within := gives.isWithin (Spot.isWithin_of_ended first ended)
  have lines : ('(' :: text ++ [')', '\n']).count '\n' = text.count '\n' + 1 := by simp [List.count_append]
  rw [lines] at within
  exact within

def Origin.within (lines : Nat) : Origin where
  place pos := 1 ≤ pos.line ∧ pos.line ≤ lines
  name _ := True
  tokens ts := ∀ t ∈ ts.list, t.IsWithin lines
  joined _ _ := trivial
  placed within t member := ⟨(within t member).first, (within t member).last⟩
  named _ _ _ _ := trivial
  inner within t member isString _ _ holds u inside := by
    obtain ⟨first, last⟩ := holds.lines
    have here := within t member
    have below := here.string isString
    refine (isWithin_of_mem_fieldTokens (Nat.le_trans here.first first) inside).mono ?_
    omega

/-- Every node of a tree begins on a line of its text. -/
theorem line_of_parse {text : List Char} {inChars : Bool} {tree : Module}
    (parsed : Module.parse text inChars = .ok tree) {n : Node} (among : n ∈ walk tree.nodes) {pos : Pos}
    (place : n.pos? = some pos) : 1 ≤ pos.line ∧ pos.line ≤ (Lexer.endLastLine text).count '\n' := by
  have ended : (Lexer.endLastLine text).getLast? = some '\n' := by
    unfold Lexer.endLastLine
    split
    · assumption
    · simp
  have known : (Origin.within ((Lexer.endLastLine text).count '\n')).tokens (tokenize text) := by
    intro t member
    have gives : Spot.Gives ⟨Lexer.endLastLine text, ⟨1, 0⟩⟩ t := Lexer.gives_of_mem_run rfl member
    have within := gives.isWithin (Spot.isWithin_of_ended (Nat.le_refl 1) ended)
    rwa [Nat.add_sub_cancel_left] at within
  obtain ⟨places, -, -⟩ := Module.comesFrom_of_parse _ known parsed n among
  exact places pos place

end PluginBuild.Script
