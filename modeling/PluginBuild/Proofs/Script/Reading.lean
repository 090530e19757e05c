import PluginBuild.Script.Parse

/-!
What rules read. Where certain tokens are ahead, a rule reads a value and leaves the last of them, or
it fails; which of the two is told by a condition, so that one statement covers words that may or may
not be keywords.
-/

namespace PluginBuild.Script

open Read

def Cursor.ahead (c : Cursor) : List Token := c.tokens.list.toList.drop c.place

/-- Ways for a rule not to go on. Not to match is always one of them. -/
structure Stops where
  allows : Stop → Prop
  mismatch : allows .mismatch

def Stops.any : Stops := ⟨fun _ => True, trivial⟩

/-- Not to match and nothing else, which leaves room for another reading. -/
def Stops.none : Stops := ⟨(· = .mismatch), rfl⟩

/-- Where the tokens `ahead` come next, a rule reads a value and leaves the tokens `left` if a condition
holds, and otherwise does not go on in one of the given ways. -/
def Reads {α : Type} (k : Stops) (rule : Read α) (ahead : List Token) (p : Prop) (value : α)
    (left : List Token) : Prop :=
  ∀ c : Cursor, c.ahead = ahead →
    (p → ∃ c', rule c = .ok value c' ∧ c'.ahead = left) ∧
    (¬ p → ∃ stop c', rule c = .error stop c' ∧ k.allows stop)

/-- Where certain tokens come next, a rule does not go on. -/
def Fails {α : Type} (k : Stops) (rule : Read α) (ahead : List Token) : Prop :=
  ∀ c : Cursor, c.ahead = ahead → ∃ stop c', rule c = .error stop c' ∧ k.allows stop

/-- Steps that are repeated as long as they give a new value. -/
def Loops {α : Type} (k : Stops) (step : α → Read (Option α)) (start : α) (ahead : List Token) (p : Prop)
    (value : α) (left : List Token) : Prop :=
  ∀ n, ahead.length < n → Reads k (repeatWhile step n start) ahead p value left

theorem Read.bind_run {α β : Type} (rule : Read α) (next : α → Read β) (c : Cursor) :
    (rule >>= next) c = match rule c with
      | .ok a c => next a c
      | .error stop c => .error stop c := by
  cases ended : rule c <;> simp [Bind.bind, EStateM.bind, ended]

namespace Reads

variable {α β : Type} {k : Stops} {rule : Read α} {next : α → Read β} {ahead between left : List Token}
  {p q : Prop} {a : α} {b : β} {t u : Token} {ts : List Token}

theorem pure (a : α) : Reads k (Pure.pure a) ahead True a ahead :=
  fun c here => ⟨fun _ => ⟨c, rfl, here⟩, fun never => (never trivial).elim⟩

theorem congr (reads : Reads k rule ahead p a left) (same : p ↔ q) :
    Reads k rule ahead q a left := propext same ▸ reads

theorem bind (first : Reads k rule ahead p a between)
    (second : p → Reads k (next a) between q b left) :
    Reads k (rule >>= next) ahead (p ∧ q) b left := by
  intro c here
  rw [Read.bind_run]
  constructor
  · rintro ⟨fitting, fitting'⟩
    obtain ⟨c₁, read, here₁⟩ := (first c here).1 fitting
    rw [read]
    exact (second fitting c₁ here₁).1 fitting'
  · intro unfit
    by_cases fitting : p
    · obtain ⟨c₁, read, here₁⟩ := (first c here).1 fitting
      rw [read]
      exact (second fitting c₁ here₁).2 fun fitting' => unfit ⟨fitting, fitting'⟩
    · obtain ⟨stop, c₁, failed, allowed⟩ := (first c here).2 fitting
      rw [failed]
      exact ⟨stop, c₁, rfl, allowed⟩

theorem andThen (first : Reads k rule ahead True a between) (second : Reads k (next a) between q b left) :
    Reads k (rule >>= next) ahead q b left :=
  (bind first fun _ => second).congr (iff_of_eq (true_and q))

theorem before (first : Reads k rule ahead p a between) (second : Reads k (next a) between True b left) :
    Reads k (rule >>= next) ahead p b left :=
  (bind first fun _ => second).congr (iff_of_eq (and_true p))

theorem ite_pos {c : Prop} [Decidable c] {other : Read α} (holds : c) (reads : Reads k rule ahead p a left) :
    Reads k (if c then rule else other) ahead p a left := by
  rwa [if_pos holds]

theorem ite_neg {c : Prop} [Decidable c] {other : Read α} (never : ¬ c) (reads : Reads k rule ahead p a left) :
    Reads k (if c then other else rule) ahead p a left := by
  rwa [if_neg never]

theorem of_fails (fails : Fails k rule ahead) (never : ¬ p) (a : α) (left : List Token) :
    Reads k rule ahead p a left :=
  fun c here => ⟨fun fitting => (never fitting).elim, fun _ => fails c here⟩

theorem attempt (none : Fails .none rule ahead) :
    Reads k (Read.attempt rule) ahead True Option.none ahead := by
  intro c here
  refine ⟨fun _ => ?_, fun never => (never trivial).elim⟩
  obtain ⟨stop, c₁, failed, rfl⟩ := none c here
  refine ⟨{ c with seen := c₁.seen }, ?_, here⟩
  rw [Read.attempt, failed]

theorem getElem?_place {c : Cursor} (here : c.ahead = t :: ts) : c.tokens.list[c.place]? = some t := by
  have first := congrArg (·[0]?) here
  simpa [Cursor.ahead, List.getElem?_drop] using first

theorem peek : Reads k peek (t :: ts) True t (t :: ts) := by
  intro c here
  refine ⟨fun _ => ?_, fun never => (never trivial).elim⟩
  rw [Read.peek, getElem?_place here]
  exact ⟨_, rfl, here⟩

theorem peekSecond : Reads k peekSecond (t :: u :: ts) True u (t :: u :: ts) := by
  intro c here
  refine ⟨fun _ => ?_, fun never => (never trivial).elim⟩
  have second : c.tokens.list[c.place + 1]? = some u := by
    have := congrArg (·[1]?) here
    simpa [Cursor.ahead, List.getElem?_drop] using this
  rw [Read.peekSecond, second]
  exact ⟨_, rfl, here⟩

theorem advance : Reads k advance (t :: ts) True () ts := by
  intro c here
  refine ⟨fun _ => ⟨{ c with place := c.place + 1 }, rfl, ?_⟩, fun never => (never trivial).elim⟩
  have rest := congrArg List.tail here
  simpa [Cursor.ahead] using rest

theorem count : Reads k Read.ahead ahead True ahead.length ahead := by
  intro c here
  refine ⟨fun _ => ⟨c, ?_, here⟩, fun never => (never trivial).elim⟩
  rw [← here, Cursor.ahead, List.length_drop]
  rfl

theorem fold {step : α → Read (Option α)} {start : α} (loops : Loops k step start ahead p a left) :
    Reads k (fold start step) ahead p a left :=
  andThen count (loops _ (Nat.lt_succ_self _))

theorem isNext (spelling : String) : Reads k (isNext spelling) (t :: ts) True (t.is spelling) (t :: ts) :=
  andThen peek (pure _)

theorem accept {spelling : String} (same : t.is spelling = true) :
    Reads k (accept spelling) (t :: ts) True true ts := by
  refine andThen peek ?_
  rw [if_pos same]
  exact andThen advance (pure true)

theorem skip {spelling : String} (other : t.is spelling = false) :
    Reads k (Read.accept spelling) (t :: ts) True false (t :: ts) := by
  refine andThen peek ?_
  rw [other]
  exact pure false

theorem expect {spelling : String} (same : t.is spelling = true) :
    Reads k (expect spelling) (t :: ts) True () ts :=
  andThen (accept same) (pure ())

theorem expectKind (kind : TokenKind) : Reads k (expectKind kind) (t :: ts) (t.kind = kind) t ts := by
  refine andThen peek ?_
  by_cases same : t.kind = kind
  · rw [if_pos same]
    exact (andThen advance (pure t)).congr (iff_of_true trivial same)
  · rw [if_neg same]
    exact of_fails (fun c _ => ⟨_, c, rfl, k.mismatch⟩) same t ts

theorem identifier : Reads k identifier (t :: ts) (t.kind = .name) (identifierOf t.text) ts :=
  before (expectKind .name) (pure _)

theorem here : Reads k here (t :: ts) True t.pos (t :: ts) := andThen peek (pure _)

theorem isNameBefore {spelling : String} (other : t.kind ≠ .name ∨ u.is spelling = false) :
    Reads k (isNameBefore spelling) (t :: u :: ts) True false (t :: u :: ts) := by
  refine andThen peek ?_
  by_cases name : t.kind = .name
  · rw [if_pos name]
    refine andThen peekSecond ?_
    rw [other.resolve_left (not_not_intro name)]
    exact pure false
  · rw [if_neg name]
    exact pure false

end Reads

namespace Fails

variable {α β : Type} {k : Stops} {rule : Read α} {next : α → Read β} {ahead between : List Token}
  {a : α} {t : Token} {ts left : List Token}

theorem of_reads (reads : Reads k rule ahead False a left) : Fails k rule ahead :=
  fun c here => (reads c here).2 id

theorem throw {stop : Stop} (allowed : k.allows stop) : Fails k (throw stop : Read α) ahead :=
  fun c _ => ⟨stop, c, rfl, allowed⟩

theorem mismatch : Fails k (Read.mismatch : Read α) ahead := throw k.mismatch

theorem first (fails : Fails k rule ahead) : Fails k (rule >>= next) ahead := by
  intro c here
  obtain ⟨stop, c₁, failed, allowed⟩ := fails c here
  exact ⟨stop, c₁, by rw [Read.bind_run, failed], allowed⟩

theorem andThen (first : Reads k rule ahead True a between) (second : Fails k (next a) between) :
    Fails k (rule >>= next) ahead := by
  intro c here
  obtain ⟨c₁, read, here₁⟩ := (first c here).1 trivial
  rw [Read.bind_run, read]
  exact second c₁ here₁

theorem map {f : α → β} (fails : Fails k rule ahead) : Fails k (f <$> rule) ahead := by
  intro c here
  obtain ⟨stop, c₁, failed, allowed⟩ := fails c here
  refine ⟨stop, c₁, ?_, allowed⟩
  show EStateM.map f rule c = _
  rw [EStateM.map, failed]

theorem fold {step : α → Read (Option α)} (fails : Fails k (step a) ahead) :
    Fails k (Read.fold a step) ahead := andThen .count (first fails)

theorem ite_pos {c : Prop} [Decidable c] {other : Read α} (holds : c) (fails : Fails k rule ahead) :
    Fails k (if c then rule else other) ahead := by
  rwa [if_pos holds]

theorem ite_neg {c : Prop} [Decidable c] {other : Read α} (never : ¬ c) (fails : Fails k rule ahead) :
    Fails k (if c then other else rule) ahead := by
  rwa [if_neg never]

theorem expect {spelling : String} (other : t.is spelling = false) :
    Fails k (Read.expect spelling) (t :: ts) := andThen (.skip other) mismatch

theorem expectKind {kind : TokenKind} (other : t.kind ≠ kind) : Fails k (Read.expectKind kind) (t :: ts) :=
  of_reads ((Reads.expectKind kind).congr (iff_of_false other id))

theorem identifier (other : t.kind ≠ .name) : Fails k Read.identifier (t :: ts) :=
  first (expectKind other)

end Fails

namespace Loops

variable {α : Type} {k : Stops} {step : α → Read (Option α)} {ahead between left : List Token} {p q : Prop}
  {a a' b : α}

theorem congr (loops : Loops k step a ahead p b left) (same : p ↔ q) : Loops k step a ahead q b left :=
  propext same ▸ loops

theorem stop (none : Reads k (step a) ahead True none ahead) : Loops k step a ahead True a ahead := by
  intro n enough
  obtain ⟨n, rfl⟩ : ∃ k, n = k + 1 := ⟨n - 1, by omega⟩
  exact .andThen none (.pure a)

theorem next (first : Reads k (step a) ahead p (some a') between)
    (shorter : between.length < ahead.length) (rest : Loops k step a' between q b left) :
    Loops k step a ahead (p ∧ q) b left := by
  intro n enough
  obtain ⟨n, rfl⟩ : ∃ k, n = k + 1 := ⟨n - 1, by omega⟩
  exact .bind first fun _ => rest n (by omega)

theorem andThen (first : Reads k (step a) ahead True (some a') between)
    (shorter : between.length < ahead.length) (rest : Loops k step a' between q b left) :
    Loops k step a ahead q b left :=
  congr (next first shorter rest) (iff_of_eq (true_and q))

end Loops

end PluginBuild.Script
