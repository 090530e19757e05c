import Mathlib.Data.List.TakeWhile
import PluginBuild.Proofs.Script.Spots
import PluginBuild.Script.Lexer

/-!
What a step of the scanner does. It moves on in the text and adds tokens on the way; a token with a text
of its own is spelled where it begins, the others only mark a place.
-/

namespace PluginBuild.Script

/-- Where a mark that stands at a spot belongs: a line that is empty because the text ends there does not
count. -/
def Spot.markLine (s : Spot) : Nat :=
  if s.rest.isEmpty then if s.pos.column = 0 ∧ 1 < s.pos.line then s.pos.line - 1 else s.pos.line
  else s.pos.line

/-- A token that is added between a spot and the end of its text. A name has only characters that may stand
in one, and a string ends before its line does. -/
inductive Spot.Gives (s : Spot) : Token → Prop where
  | spelled {t : Spot} {kind : TokenKind} {count : Nat} {column : Option Nat} {cursor : Nat} (leads : s.Leads t)
      (ahead : t.rest ≠ []) (word : kind = .name → ∀ c ∈ t.rest.take count, Lexer.continuesName c = true)
      (quoted : kind = .string → ∃ n quote, count = n + 1 ∧ t.rest[n]? = some quote ∧ quote ≠ '\n') :
      s.Gives ⟨kind, String.ofList (t.rest.take count), t.pos.line, column, cursor⟩
  | mark {t : Spot} {kind : TokenKind} {text : String} {column : Option Nat} {cursor : Nat} (leads : s.Leads t)
      (noName : kind ≠ .name) (noString : kind ≠ .string) : s.Gives ⟨kind, text, t.markLine, column, cursor⟩

theorem Spot.Leads.gives {s t : Spot} (leads : s.Leads t) {token : Token} (gives : t.Gives token) :
    s.Gives token := by
  cases gives with
  | spelled further ahead word quoted => exact .spelled (leads.trans further) ahead word quoted
  | mark further noName noString => exact .mark (leads.trans further) noName noString

namespace Lexer

def State.spot (s : State) : Spot := ⟨s.rest, ⟨s.line, s.column⟩⟩

@[simp] theorem skip_tokens (s : State) : s.skip.tokens = s.tokens := by
  unfold State.skip
  split <;> rfl

@[simp] theorem skipMany_tokens (n : Nat) (s : State) : (s.skipMany n).tokens = s.tokens := by
  induction n generalizing s with
  | zero => rfl
  | succ n ih => rw [State.skipMany, ih, skip_tokens]

@[simp] theorem skip_spot (s : State) : s.skip.spot = s.spot.next := by
  unfold State.skip
  split
  · rename_i none
    simp [State.spot, Spot.next, none]
  · rename_i rest ahead
    simp [State.spot, Spot.next, ahead]
  · rename_i c rest inLine ahead
    have notEnd : c ≠ '\n' := fun ends => inLine (ends ▸ rfl)
    simp [State.spot, Spot.next, ahead, notEnd]

@[simp] theorem skipMany_spot (n : Nat) (s : State) : (s.skipMany n).spot = s.spot.forward n := by
  induction n generalizing s with
  | zero => rfl
  | succ n ih => rw [State.skipMany, ih, skip_spot, Spot.forward]

theorem leads_skip (s : State) : s.spot.Leads s.skip.spot := ⟨1, skip_spot s⟩

theorem leads_skipMany (n : Nat) (s : State) : s.spot.Leads (s.skipMany n).spot := ⟨n, skipMany_spot n s⟩

/-- Tokens are those of a state and such as are added on the way from it. -/
def State.Extends (s : State) (tokens : Array Token) : Prop :=
  ∀ t ∈ tokens, t ∈ s.tokens ∨ s.spot.Gives t

/-- A step goes on in the text of a state and adds tokens on the way. -/
def State.Takes (s : State) : Step → Prop
  | .more next => s.spot.Leads next.spot ∧ s.Extends next.tokens
  | .done tokens _ => s.Extends tokens

/-- A state that lies further on and has the same tokens. -/
def State.Reaches (s next : State) : Prop := s.spot.Leads next.spot ∧ next.tokens = s.tokens

theorem extends_same (s : State) : s.Extends s.tokens := fun _ member => .inl member

theorem extends_push {s : State} {t : Token} (gives : s.spot.Gives t) : s.Extends (s.tokens.push t) := by
  intro u member
  rcases Array.mem_push.mp member with before | rfl
  · exact .inl before
  · exact .inr gives

namespace State.Reaches

variable {s next : State} (reaches : s.Reaches next)
include reaches

theorem takes : s.Takes (.more next) := ⟨reaches.1, reaches.2 ▸ extends_same s⟩

theorem trans {last : State} (further : next.Reaches last) : s.Reaches last :=
  ⟨reaches.1.trans further.1, further.2.trans reaches.2⟩

theorem extends_of {tokens : Array Token} (extended : next.Extends tokens) : s.Extends tokens := by
  intro t member
  rcases extended t member with before | gives
  · exact .inl (reaches.2 ▸ before)
  · exact .inr (reaches.1.gives gives)

theorem takes_of {step : Step} (taken : next.Takes step) : s.Takes step := by
  cases step with
  | done tokens ending => exact reaches.extends_of taken
  | more last => exact ⟨reaches.1.trans taken.1, reaches.extends_of taken.2⟩

end State.Reaches

theorem reaches_skip (s : State) : s.Reaches s.skip := ⟨leads_skip s, skip_tokens s⟩

theorem reaches_skipMany (n : Nat) (s : State) : s.Reaches (s.skipMany n) :=
  ⟨leads_skipMany n s, skipMany_tokens n s⟩

section
variable {s : State}

theorem misspelt_takes (e : SpellingError) (count : Nat) : s.Takes (s.misspelt e count) := extends_same s

theorem stringLength_ends {quote : Char} {size closing n m : Nat} {text : List Char}
    (found : stringLength quote size closing n text = .ok m) :
    ∃ k, m = n + k + 1 ∧ text[k]? = some quote := by
  fun_induction stringLength quote size closing n text with
  | case1 => exact nomatch found
  | case2 closing n rest last =>
    cases found
    exact ⟨0, rfl, rfl⟩
  | case3 closing n rest more ih | case7 closing n c rest other inLine plain ih =>
    obtain ⟨k, rfl, ends⟩ := ih found
    exact ⟨k + 1, by omega, ends⟩
  | case4 => exact nomatch found
  | case5 => exact nomatch found
  | case6 closing n other c rest inLine ih =>
    obtain ⟨k, rfl, ends⟩ := ih found
    exact ⟨k + 2, by omega, ends⟩

theorem quoted_of_stringPrefix? {text : List Char} {letters : Nat} (found : stringPrefix? text = some letters) :
    ∃ quote rest, text.drop letters = quote :: rest ∧ quote ≠ '\n' := by
  unfold stringPrefix? at found
  dsimp only at found
  split at found
  · rename_i c rest ahead
    split at found
    · rename_i marks
      cases found
      refine ⟨c, rest, ahead, ?_⟩
      rintro rfl
      exact absurd marks (by simp)
    · exact nomatch found
  · exact nomatch found

variable (ahead : s.rest ≠ [])
include ahead

theorem emit_takes (kind : TokenKind) (count : Nat)
    (word : kind = .name → ∀ c ∈ s.rest.take count, continuesName c = true)
    (quoted : kind = .string → ∃ n quote, count = n + 1 ∧ s.rest[n]? = some quote ∧ quote ≠ '\n') :
    s.Takes (s.emit kind count) :=
  ⟨leads_skipMany count s, extends_push (.spelled (.refl s.spot) ahead word quoted)⟩

theorem scanName_takes : s.Takes (scanName s) := by
  unfold scanName
  dsimp only
  split
  · exact misspelt_takes _ _
  · refine emit_takes ahead _ _ (fun _ c member => ?_) fun string => ?_
    · have word := List.prefix_iff_eq_take.mp (List.takeWhile_prefix continuesName (l := s.rest))
      rw [← word] at member
      exact List.mem_takeWhile_imp member
    · split at string <;> cases string

theorem scanString_takes {letters : Nat}
    (begins : ∃ quote rest, s.rest.drop letters = quote :: rest ∧ quote ≠ '\n') :
      s.Takes (scanString s letters) := by
  obtain ⟨quote, rest, same, inLine⟩ := begins
  have placed : ∀ n, s.rest[letters + n]? = (quote :: rest)[n]? := fun n => by rw [← same, List.getElem?_drop]
  have closed {count n : Nat} (whole : count = letters + n + 1) (ends : (quote :: rest)[n]? = some quote) :
      s.Takes (s.emit .string count) := by
    refine emit_takes ahead .string count nofun fun _ => ⟨letters + n, quote, whole, ?_, inLine⟩
    rw [placed, ends]
  unfold scanString
  rw [same]
  dsimp only
  split
  · rename_i empty
    have second : rest.head? = some quote := by
      simp only [Bool.and_eq_true, beq_iff_eq] at empty
      exact empty.2
    refine closed (n := 1) rfl ?_
    rw [List.getElem?_cons_succ, ← List.head?_eq_getElem?, second]
  · generalize size : (if (rest.take 2 == [quote, quote]) = true then 3 else 1) = width
    split
    · rename_i count found
      obtain ⟨k, rfl, ends⟩ := stringLength_ends found
      have wide : 1 ≤ width := by
        rw [← size]
        split <;> decide
      rw [List.getElem?_drop] at ends
      refine closed (n := width - 1 + k + 1) (by omega) ?_
      rw [List.getElem?_cons_succ, ends]
    · exact misspelt_takes _ _

theorem emit_number (count : Nat) : s.Takes (s.emit .number count) := emit_takes ahead _ count nofun nofun

theorem endNumber_takes (kind : NumberKind) (count : Nat) (rest : List Char) :
    s.Takes (s.endNumber kind count rest) := by
  unfold State.endNumber
  split
  · split
    · exact misspelt_takes _ _
    · exact emit_number ahead count
  · exact emit_number ahead count

theorem endDecimal_takes (count : Nat) (rest : List Char) : s.Takes (s.endDecimal count rest) := by
  unfold State.endDecimal
  split
  · split
    · exact endNumber_takes ahead _ _ _
    · exact endNumber_takes ahead _ _ _
  · exact endNumber_takes ahead _ _ _

theorem exponent_takes (count : Nat) (rest : List Char) : s.Takes (s.exponent count rest) := by
  unfold State.exponent
  dsimp only
  repeat' split
  all_goals first
    | exact misspelt_takes _ _
    | exact endDecimal_takes ahead _ _
    | exact endNumber_takes ahead _ _ _

theorem fraction_takes (count : Nat) (rest : List Char) : s.Takes (s.fraction count rest) := by
  unfold State.fraction
  split
  · split
    · exact exponent_takes ahead _ _
    · exact misspelt_takes _ _
  · exact exponent_takes ahead _ _

theorem based_takes (kind : NumberKind) (isBaseDigit : Char → Bool) (rest : List Char) :
    s.Takes (s.based kind isBaseDigit rest) := by
  unfold State.based
  dsimp only
  repeat' split
  all_goals first
    | exact misspelt_takes _ _
    | exact endNumber_takes ahead _ _ _

theorem scanNumber_takes : s.Takes (scanNumber s) := by
  unfold scanNumber
  dsimp only
  repeat' split
  all_goals first
    | exact misspelt_takes _ _
    | exact based_takes ahead _ _ _
    | exact fraction_takes ahead _ _
    | exact exponent_takes ahead _ _
    | exact endNumber_takes ahead _ _ _
    | exact emit_number ahead _

theorem scanOperator_takes (c : Char) : s.Takes (scanOperator s c) := by
  have bracket : ∀ brackets, s.Takes ({ s with brackets }.emit .op 1) := by
    intro brackets
    exact emit_takes (s := { s with brackets }) ahead .op 1 nofun nofun
  unfold scanOperator
  dsimp only
  split
  · exact emit_takes ahead .op _ nofun nofun
  repeat' split
  all_goals first
    | exact misspelt_takes _ _
    | exact bracket _

omit ahead in
theorem gives_mark {kind : TokenKind} (noName : kind ≠ .name) (noString : kind ≠ .string) (text : String)
    (column : Option Nat) (cursor : Nat) :
    s.spot.Gives ⟨kind, text, if s.rest.isEmpty then s.lastLine else s.line, column, cursor⟩ :=
  .mark (.refl s.spot) noName noString

omit ahead in
theorem finish_takes (none : s.rest = []) : s.Takes s.finish := by
  unfold State.finish
  split
  · exact extends_same s
  · have mark : s.spot.Gives ⟨.finish, "", if s.rest.isEmpty then s.lastLine else s.line, _, s.lastCursor⟩ :=
      gives_mark (by decide) (by decide) "" Option.none _
    rw [none] at mark
    exact extends_push mark

theorem endLine_takes {next : State} (reaches : s.Reaches next) : s.Takes (next.endLine s) := by
  have mark (cursor : Nat) : s.spot.Gives ⟨.newline, "\n", s.line, some s.column, cursor⟩ := by
    have mark : s.spot.Gives
        ⟨.newline, "\n", if s.rest.isEmpty then s.lastLine else s.line, some s.column, cursor⟩ :=
      gives_mark (by decide) (by decide) _ _ _
    rwa [List.isEmpty_eq_false_iff.mpr ahead] at mark
  have onward := reaches.trans (reaches_skip next)
  unfold State.endLine
  dsimp only
  split
  · refine ⟨onward.1, ?_⟩
    rw [reaches.2]
    exact extends_push (mark next.column)
  · exact ⟨onward.1, onward.2 ▸ extends_same s⟩

omit ahead in
theorem joinLine_takes : Sum.elim s.Takes s.Reaches s.joinLine := by
  unfold State.joinLine
  dsimp only
  split
  · split
    · split <;> exact extends_same s
    · exact (reaches_skip s).trans (reaches_skip s.skip)
  · exact extends_same s

omit ahead in
theorem scanToken_takes : s.Takes (scanToken s) := by
  have spaces := reaches_skipMany (s.rest.takeWhile isSpace).length s
  refine spaces.takes_of ?_
  unfold scanToken
  dsimp only
  generalize s.skipMany (s.rest.takeWhile isSpace).length = s
  split
  · rename_i none
    exact finish_takes none
  rename_i c after same
  have ahead : s.rest ≠ [] := same ▸ List.cons_ne_nil c after
  split
  · exact endLine_takes ahead (reaches_skipMany _ s)
  split
  · exact endLine_takes ahead ⟨.refl _, rfl⟩
  split
  · rename_i letters found
    exact scanString_takes ahead (quoted_of_stringPrefix? found)
  split
  · exact scanName_takes ahead
  split
  · exact scanNumber_takes ahead
  split
  · exact fraction_takes ahead _ _
  split
  · have joined := joinLine_takes (s := s)
    split
    · rename_i stop ended
      rwa [ended] at joined
    · rename_i next ended
      rw [ended] at joined
      exact State.Reaches.takes joined
  · exact scanOperator_takes ahead _

omit ahead in
theorem measureIndent_takes (fuel : Nat) (indent : Indent) (s : State) :
    Sum.elim s.Takes (fun found => s.Reaches found.2) (measureIndent fuel indent s) := by
  induction fuel generalizing indent s with
  | zero => exact ⟨.refl s.spot, rfl⟩
  | succ fuel ih =>
    have behind : ∀ indent (next : State), s.Reaches next →
        Sum.elim s.Takes (fun found => s.Reaches found.2) (measureIndent fuel indent next) := by
      intro indent next reaches
      have later := ih indent next
      cases ended : measureIndent fuel indent next with
      | inl stop =>
        rw [ended] at later
        exact reaches.takes_of later
      | inr found =>
        rw [ended] at later
        exact reaches.trans later
    unfold measureIndent
    split
    · exact behind _ _ (reaches_skip s)
    · exact behind _ _ (reaches_skip s)
    · exact behind _ _ (reaches_skip s)
    · have joined := joinLine_takes (s := s)
      dsimp only
      split
      · rename_i stop ended
        rwa [ended] at joined
      · rename_i next ended
        rw [ended] at joined
        exact behind _ next joined
    · exact ⟨.refl s.spot, rfl⟩

omit ahead in
theorem indentTo_takes (width narrow : Nat) : s.Takes (s.indentTo width narrow) := by
  have opened : ∀ cursor, s.spot.Gives
      ⟨.indent, "", if s.rest.isEmpty then s.lastLine else s.line, none, cursor⟩ :=
    fun cursor => gives_mark (by decide) (by decide) _ _ _
  have closed : ∀ n cursor, s.Extends (s.tokens ++ Array.replicate n
      ⟨.dedent, "", if s.rest.isEmpty then s.lastLine else s.line, none, cursor⟩) := by
    intro n cursor t member
    rcases Array.mem_append.mp member with before | mark
    · exact .inl before
    · rw [(Array.mem_replicate.mp mark).2]
      exact .inr (gives_mark (by decide) (by decide) _ _ _)
  unfold State.indentTo
  dsimp only
  generalize (if s.rest.isEmpty then s.lastLine else s.line) = line at opened closed ⊢
  repeat' split
  all_goals first
    | exact extends_same s
    | exact ⟨.refl s.spot, extends_same s⟩
    | exact ⟨.refl s.spot, extends_push (opened _)⟩
    | exact ⟨.refl s.spot, closed _ _⟩

omit ahead in
theorem scanLineStart_takes : s.Takes (scanLineStart s) := by
  have measured := measureIndent_takes s.left ⟨0, 0, 0⟩ s
  unfold scanLineStart
  split
  · rename_i stop ended
    rwa [ended] at measured
  · rename_i indent next ended
    rw [ended] at measured
    have reaches : s.Reaches next := measured
    refine reaches.takes_of ?_
    dsimp only
    split
    · exact (reaches_skipMany _ next).takes
    · exact (reaches_skipMany _ next).takes
    · split
      · exact indentTo_takes _ _
      · exact ⟨.refl next.spot, extends_same next⟩

end

/-- All tokens that a run adds lie ahead of where it starts. -/
theorem run_extends (s : State) : s.Extends (run s).list := by
  induction left : s.remaining using Nat.strongRecOn generalizing s with
  | ind k ih =>
    have step : s.Takes (if s.lineStart then scanLineStart s else scanToken s) := by
      split
      · exact scanLineStart_takes
      · exact scanToken_takes
    unfold run
    split
    · rename_i tokens ending ended
      rwa [ended] at step
    · rename_i next ended
      rw [ended] at step
      obtain ⟨leads, added⟩ := step
      split
      · rename_i less
        intro t member
        rcases ih next.remaining (left ▸ less) next rfl t member with before | gives
        · exact added t before
        · exact .inr (leads.gives gives)
      · exact added

theorem gives_of_mem_run {s : State} (fresh : s.tokens = #[]) {t : Token} (member : t ∈ (run s).list) :
    s.spot.Gives t := by
  rcases run_extends s t member with before | gives
  · rw [fresh] at before
    exact nomatch before
  · exact gives

end Lexer
end PluginBuild.Script
