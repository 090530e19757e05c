import PluginBuild.Proofs.Script.Reading

/-!
The tokens that rules read. A rule moves among the tokens and never changes them. What a rule reads is of
some kind if the parts are of theirs; here stand the ways in which rules are composed, and the rules that
read words and marks only.
-/

namespace PluginBuild.Script

open Read

theorem forall_mem_some {α : Type} {good : α → Prop} {a : α} (fit : good a) : ∀ b ∈ some a, good b :=
  fun _ same => Option.mem_some.mp same ▸ fit

/-- A rule that leaves the given tokens as they are and reads something of a certain kind. -/
def Yields {α : Type} (ts : Tokens) (good : α → Prop) (rule : Read α) : Prop :=
  ∀ c a c', c.tokens = ts → rule c = .ok a c' → c'.tokens = ts ∧ good a

namespace Yields

section
variable {α β : Type} {ts : Tokens} {good weaker : α → Prop} {fine : β → Prop} {rule : Read α}

theorem mono (implies : ∀ a, good a → weaker a) (yields : Yields ts good rule) :
    Yields ts weaker rule := by
  intro c a c' here done
  obtain ⟨same, fit⟩ := yields c a c' here done
  exact ⟨same, implies a fit⟩

theorem pure {a : α} (fit : good a) : Yields ts good (Pure.pure a) := by
  rintro c _ _ here ⟨⟩
  exact ⟨here, fit⟩

theorem mismatch : Yields ts good Read.mismatch := fun _ _ _ _ done => nomatch done

theorem throw (stop : Stop) : Yields ts good (throw stop) := fun _ _ _ _ done => nomatch done

theorem get : Yields ts (fun _ => True) (get : Read Cursor) := by
  rintro c _ _ here ⟨⟩
  exact ⟨here, trivial⟩

theorem bind {next : α → Read β} (first : Yields ts good rule)
    (second : ∀ a, good a → Yields ts fine (next a)) : Yields ts fine (rule >>= next) := by
  intro c b c' here done
  rw [Read.bind_run] at done
  split at done
  · rename_i a c₁ ended
    obtain ⟨same, fit⟩ := first c a c₁ here ended
    exact second a fit c₁ b c' same done
  · exact nomatch done

theorem stop (next : α → Read β) : Yields ts fine (Read.mismatch >>= next) :=
  fun _ _ _ _ done => nomatch done

theorem faultAt (t : Token) (message : String) : Yields ts good (faultAt t message) := .throw _

theorem furthest : Yields ts (fun _ => True) furthest := .bind .get fun _ _ => .pure trivial

theorem faultHere (message : String) : Yields ts good (faultHere message) :=
  .bind .furthest fun t _ => .faultAt t message

theorem indentationFault (message : String) : Yields ts good (indentationFault message) :=
  .bind .furthest fun _ _ => .throw _

theorem ite {p : Prop} [Decidable p] {one two : Read α} (yes : Yields ts good one)
    (no : Yields ts good two) : Yields ts good (if p then one else two) := by
  split
  · exact yes
  · exact no

theorem dite {p : Prop} [Decidable p] {one two : Read α} (yes : p → Yields ts good one)
    (no : ¬p → Yields ts good two) : Yields ts good (if p then one else two) := by
  split
  · exact yes ‹_›
  · exact no ‹_›

theorem otherwise {p : Prop} [Decidable p] {next : Unit → Read α} (yields : Yields ts good (next ())) :
    Yields ts good (if p then Read.mismatch >>= next else next ()) := .ite (.stop next) yields

theorem attempt (yields : Yields ts good rule) :
    Yields ts (fun found => ∀ a ∈ found, good a) (attempt rule) := by
  intro c found c' here done
  unfold Read.attempt at done
  split at done
  · rename_i a c₁ ended
    cases done
    obtain ⟨same, fit⟩ := yields c a _ here ended
    exact ⟨same, forall_mem_some fit⟩
  · cases done
    exact ⟨here, nofun⟩
  · exact nomatch done

theorem advance : Yields ts (fun _ => True) advance := by
  rintro c _ _ here ⟨⟩
  exact ⟨here, trivial⟩

theorem ahead : Yields ts (fun _ => True) ahead := by
  rintro c _ _ here ⟨⟩
  exact ⟨here, trivial⟩

theorem repeatWhile {step : α → Read (Option α)} {a : α} (start : good a)
    (yields : ∀ a, good a → Yields ts (fun more => ∀ b ∈ more, good b) (step a)) (n : Nat) :
    Yields ts good (repeatWhile step n a) := by
  induction n generalizing a with
  | zero => exact .pure start
  | succ n ih =>
    refine .bind (yields a start) fun more fit => ?_
    cases more with
    | none => exact .pure start
    | some b => exact ih (fit b rfl)

theorem fold (good : α → Prop) {step : α → Read (Option α)} {a : α} (start : good a)
    (yields : ∀ a, good a → Yields ts (fun more => ∀ b ∈ more, good b) (step a)) :
    Yields ts good (fold a step) := .bind .ahead fun n _ => .repeatWhile start yields (n + 1)

theorem peek : Yields ts (· ∈ ts.list) peek := by
  intro c t c' here done
  unfold Read.peek at done
  split at done <;> cases done
  rename_i found
  rw [here] at found
  exact ⟨here, Array.mem_of_getElem? found⟩

theorem peekSecond : Yields ts (· ∈ ts.list) peekSecond := by
  intro c t c' here done
  unfold Read.peekSecond at done
  split at done <;> cases done
  rename_i found
  rw [here] at found
  exact ⟨here, Array.mem_of_getElem? found⟩

theorem expectKind (kind : TokenKind) :
    Yields ts (fun t => t ∈ ts.list ∧ t.kind = kind) (expectKind kind) := by
  refine .bind .peek fun t among => ?_
  by_cases same : t.kind = kind
  · rw [if_pos same]
    exact .bind .advance fun _ _ => .pure ⟨among, same⟩
  · rw [if_neg same]
    exact .mismatch

end

end Yields

/-- A rule that leaves the tokens as they are where it reads something. -/
def Keeps {α : Type} (rule : Read α) : Prop := ∀ ts, Yields ts (fun _ => True) rule

theorem Yields.after {α β : Type} {ts : Tokens} {good : β → Prop} {rule : Read α} {next : α → Read β}
    (first : Keeps rule) (second : ∀ a, Yields ts good (next a)) : Yields ts good (rule >>= next) :=
  .bind (first ts) fun a _ => second a

namespace Keeps

section
variable {α β : Type} {rule : Read α}

theorem of_yields {good : Tokens → α → Prop} (yields : ∀ ts, Yields ts (good ts) rule) : Keeps rule :=
  fun ts => (yields ts).mono fun _ _ => trivial

theorem pure (a : α) : Keeps (Pure.pure a : Read α) := fun _ => .pure trivial

theorem mismatch : Keeps (Read.mismatch : Read α) := fun _ => .mismatch

theorem bind {next : α → Read β} (first : Keeps rule) (second : ∀ a, Keeps (next a)) :
    Keeps (rule >>= next) := fun ts => .after first fun a => second a ts

theorem stop (next : α → Read β) : Keeps (Read.mismatch >>= next) := fun _ => .stop next

theorem ite {p : Prop} [Decidable p] {one two : Read α} (yes : Keeps one) (no : Keeps two) :
    Keeps (if p then one else two) := fun ts => .ite (yes ts) (no ts)

theorem otherwise {p : Prop} [Decidable p] {next : Unit → Read α} (keeps : Keeps (next ())) :
    Keeps (if p then Read.mismatch >>= next else next ()) := .ite (.stop next) keeps

theorem and {b : Bool} {rule : Read Bool} (keeps : Keeps rule) : Keeps (Pure.pure b <&&> rule) := by
  refine .bind (.pure b) fun c => ?_
  cases c
  · exact .pure _
  · exact keeps

theorem peek : Keeps peek := .of_yields fun _ => .peek

theorem peekSecond : Keeps peekSecond := .of_yields fun _ => .peekSecond

theorem advance : Keeps advance := fun _ => .advance

theorem fold {step : α → Read (Option α)} (start : α) (keeps : ∀ a, Keeps (step a)) :
    Keeps (fold start step) := fun ts =>
  .fold _ trivial fun a _ => (keeps a ts).mono fun _ _ _ _ => trivial

theorem accept (spelling : String) : Keeps (accept spelling) := by
  refine .bind .peek fun t => .ite ?_ (.pure _)
  exact .bind .advance fun _ => .pure _

theorem isNext (spelling : String) : Keeps (isNext spelling) := .bind .peek fun _ => .pure _

theorem expect (spelling : String) : Keeps (expect spelling) :=
  .bind (.accept spelling) fun _ => .ite .mismatch (.pure _)

theorem expectKind (kind : TokenKind) : Keeps (expectKind kind) :=
  .of_yields fun _ => .expectKind kind

theorem identifier : Keeps identifier := .bind (.expectKind .name) fun _ => .pure _

theorem isNameBefore (spelling : String) : Keeps (isNameBefore spelling) :=
  .bind .peek fun _ => .ite (.bind .peekSecond fun _ => .pure _) (.pure _)

theorem literalValue (isRaw : Bool) (text : List Char) : Keeps (literalValue isRaw text) := by
  unfold Script.literalValue
  split
  · exact .pure _
  · exact fun _ => .faultHere _

theorem compareOperator? : Keeps compareOperator? := by
  refine .bind .peek fun t => .ite (.pure _) ?_
  split
  · exact .bind .advance fun _ => .pure _
  · refine .ite ?_ (.ite ?_ (.pure _))
    · exact .bind .advance fun _ => .bind (.expect "in") fun _ => .pure _
    · exact .bind .advance fun _ => .bind (.accept "not") fun _ => .ite (.pure _) (.pure _)

theorem isClauseNext : Keeps isClauseNext := by
  refine .bind (.isNext "for") fun _ => .ite (.pure _) (.bind (.isNext "async") fun _ => ?_)
  exact .ite (.bind .peekSecond fun _ => .pure _) (.pure _)

theorem captureName : Keeps captureName := by
  refine .bind (.expectKind .name) fun t => .otherwise ?_
  refine .bind (.isNext ".") fun _ => .otherwise (.bind (.isNext "(") fun _ => .otherwise ?_)
  exact .bind (.isNext "=") fun _ => .otherwise (.pure _)

theorem names : Keeps names := by
  refine .bind .identifier fun first => .bind (.fold _ fun done => ?_) fun _ => .pure _
  exact .bind (.accept ",") fun _ => .ite (.bind .identifier fun _ => .pure _) (.pure _)

theorem boundName : Keeps boundName :=
  .bind (.accept "as") fun _ => .ite (.bind .identifier fun _ => .pure _) (.pure _)

theorem leadingDots : Keeps leadingDots := by
  refine .fold _ fun n => .bind (.accept ".") fun _ => .ite (.pure _) ?_
  exact .bind (.accept "...") fun _ => .ite (.pure _) (.pure _)

end

end Keeps

namespace Yields

section
variable {α β : Type} {ts : Tokens} {good : α → Prop} {fine : β → Prop} {rule : Read α} {done : List α}

theorem map {f : α → β} (yields : Yields ts good rule) (fits : ∀ a, good a → fine (f a)) :
    Yields ts fine (f <$> rule) := by
  rw [map_eq_pure_bind]
  exact .bind yields fun a fit => .pure (fits a fit)

theorem nothing : Yields ts (fun more => ∀ a ∈ more, good a) (Pure.pure (none : Option α)) :=
  .pure nofun

theorem something {a : α} (fit : good a) : Yields ts (fun more => ∀ a ∈ more, good a) (Pure.pure (some a)) :=
  .pure (forall_mem_some fit)

theorem optional (yields : Yields ts good rule) :
    Yields ts (fun found => ∀ a ∈ found, good a) (some <$> rule) :=
  .map yields fun _ fit => forall_mem_some fit

theorem cons (first : Yields ts good rule) (fits : ∀ a ∈ done, good a) :
    Yields ts (fun more => ∀ b ∈ more, ∀ a ∈ b, good a) (do return some ((← rule) :: done)) :=
  .bind first fun _ fit => .something (List.forall_mem_cons.mpr ⟨fit, fits⟩)

theorem collect (good : α → Prop) {first : α} {step : List α → Read (Option (List α))} (fit : good first)
    (more : ∀ done, (∀ a ∈ done, good a) → Yields ts (fun more => ∀ b ∈ more, ∀ a ∈ b, good a) (step done)) :
    Yields ts (fun done => ∀ a ∈ done, good a) (Read.fold [first] step) :=
  .fold (fun done => ∀ a ∈ done, good a) (List.forall_mem_singleton.mpr fit) more

theorem mapM (good : α → Prop) {element : β → Read α} {bs : List β}
    (each : ∀ b ∈ bs, Yields ts good (element b)) :
    Yields ts (fun as => ∀ a ∈ as, good a) (bs.mapM element) := by
  induction bs with
  | nil => exact .pure nofun
  | cons b bs ih =>
    rw [List.mapM_cons]
    refine .bind (each b List.mem_cons_self) fun a fit => ?_
    refine .bind (ih fun c member => each c (List.mem_cons_of_mem b member)) fun as fits => .pure ?_
    exact List.forall_mem_cons.mpr ⟨fit, fits⟩

theorem commaRest (starts : Token → Bool) (element : Yields ts good rule) (fits : ∀ a ∈ done, good a) :
    Yields ts (fun read => ∀ a ∈ read.1, good a) (commaRest starts rule done) := by
  refine .bind (.fold (fun state => ∀ a ∈ state.1, good a) fits fun (done, trailing) fits => ?_)
    fun (reversed, trailing) fits => .pure fun a member => fits a (List.mem_reverse.mp member)
  refine .ite .nothing
    (.after (.accept ",") fun _ => .ite .nothing (.after .peek fun t => .ite ?_ (.something fits)))
  exact .bind element fun a fit => .something (List.forall_mem_cons.mpr ⟨fit, fits⟩)

theorem commaList (starts : Token → Bool) (element : Yields ts good rule) :
    Yields ts (fun read => ∀ a ∈ read.1, good a) (commaList starts rule) :=
  .bind element fun _ fit => .commaRest starts element (List.forall_mem_singleton.mpr fit)

theorem nextEntry (good : α → Prop) {starts : Token → Bool} {before : α} {ended : Bool} (fit : good before)
    (entry : Yields ts good rule) :
    Yields ts (fun more => ∀ state ∈ more, good state.1) (do
      if ended then return none
      if !(← Read.accept ",") then return none
      if starts (← Read.peek) then return some (← rule, false)
      return some (before, true)) := by
  refine .ite .nothing
    (.after (.accept ",") fun _ => .ite .nothing (.after .peek fun t => .ite ?_ (.something fit)))
  exact .bind entry fun more fine => .something fine

theorem tryCatch {handle : Stop → Read α} (yields : Yields ts good rule)
    (fails : ∀ stop ts, Yields ts (fun _ => False) (handle stop)) :
    Yields ts good (MonadExcept.tryCatch rule handle) := by
  intro c a c' here done
  replace done : EStateM.tryCatch rule handle c = .ok a c' := done
  unfold EStateM.tryCatch at done
  cases ended : rule c with
  | ok b c₁ =>
    rw [ended] at done
    cases done
    exact yields c a _ here ended
  | error stop c₁ =>
    rw [ended] at done
    exact (fails stop c₁.tokens c₁ a c' rfl done).2.elim

theorem elsewhere {other : Tokens} (yields : Yields other good rule) : Yields ts good (do
    let outer ← MonadState.get
    modify fun _ => ⟨other, 0, 0⟩
    let a ← rule
    set outer
    return a) := by
  intro c a c' here done
  have ended : (rule >>= fun a => do set c; return a : Read α) ⟨other, 0, 0⟩ = .ok a c' := done
  rw [Read.bind_run] at ended
  split at ended
  · rename_i b c₁ inner
    cases ended
    exact ⟨here, (yields ⟨other, 0, 0⟩ a c₁ rfl inner).2⟩
  · exact nomatch ended

end

end Yields

end PluginBuild.Script
