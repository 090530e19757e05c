import PluginBuild.EventHandlers

/-!
Which handlers an event has, and which of them it calls: those that were added to it, in their order, also
where handlers add others. Events are compared up to an equivalence, since different values may stand for
the same event.
-/

namespace PluginBuild.EventHandlers

variable {event handler result error : Type} [BEq event]

section
variable [EquivBEq event]

theorem find?_add (entries : List (event × List handler)) (e e' : event) (added : handler) :
    (entries.map fun (e'', hs) => if e'' == e then (e'', hs ++ [added]) else (e'', hs)).find? (·.1 == e') =
      (entries.find? (·.1 == e')).map fun (e'', hs) => (e'', if e == e' then hs ++ [added] else hs) := by
  induction entries with
  | nil => rfl
  | cons entry rest ih =>
    obtain ⟨e'', hs⟩ := entry
    have kept : (if e'' == e then (e'', hs ++ [added]) else (e'', hs)).1 = e'' := by split <;> rfl
    rw [List.map_cons, List.find?_cons, List.find?_cons]
    dsimp only
    rw [kept]
    cases here : e'' == e' with
    | false => exact ih
    | true =>
      rw [BEq.congr_left (c := e) here, BEq.comm]
      dsimp only [Option.map_some]
      split <;> rfl

theorem handlers_on (h : EventHandlers event handler) (e e' : event) (added : handler) :
    (h.on e added).handlers e' = if e == e' then h.handlers e' ++ [added] else h.handlers e' := by
  unfold on handlers
  cases known : h.entries.any (·.1 == e) with
  | true =>
    rw [if_pos rfl]
    dsimp only
    rw [find?_add]
    cases same : e == e' with
    | false => cases h.entries.find? (·.1 == e') <;> rfl
    | true =>
      obtain ⟨entry, member, is⟩ := List.any_eq_true.mp known
      cases found : h.entries.find? (·.1 == e') with
      | some entry => rfl
      | none => exact absurd (BEq.trans is same) (List.find?_eq_none.mp found entry member)
  | false =>
    rw [if_neg Bool.false_ne_true]
    dsimp only
    rw [List.find?_append]
    cases same : e == e' with
    | false =>
      rw [List.find?_singleton, same]
      cases h.entries.find? (·.1 == e') <;> rfl
    | true =>
      have absent : h.entries.find? (·.1 == e') = none := by
        refine List.find?_eq_none.mpr fun entry member is => ?_
        exact List.any_eq_false.mp known entry member (BEq.trans is (BEq.symm same))
      rw [List.find?_singleton, same, absent]
      rfl

/-- An event has the handlers that were added to it, in their order. -/
theorem handlers_of_calls (h : EventHandlers event handler) (calls : List (event × handler)) (e : event) :
    (calls.foldl (fun h (e', added) => h.on e' added) h).handlers e =
      h.handlers e ++ (calls.filter (·.1 == e)).map (·.2) := by
  induction calls generalizing h with
  | nil => exact (List.append_nil _).symm
  | cons call rest ih =>
    rw [List.foldl_cons, ih, handlers_on, List.filter_cons]
    split
    · rw [List.map_cons, List.append_assoc, List.singleton_append]
    · rfl

end

variable {call : handler → EventHandlers event handler → Except error result × EventHandlers event handler}
  {h h' : EventHandlers event handler} {e : event} {limit place : Nat} {results : List result} {err : error}

/-- Handlers are called one after the other, each with the handlers that there are by then. -/
inductive Calls
    (call : handler → EventHandlers event handler → Except error result × EventHandlers event handler) :
    List handler → EventHandlers event handler → List result → EventHandlers event handler → Prop
  | nil {h : EventHandlers event handler} : Calls call [] h [] h
  | cons {next : handler} {rest : List handler} {h h₁ h₂ : EventHandlers event handler} {r : result}
    {results : List result} (returned : call next h = (.ok r, h₁)) (later : Calls call rest h₁ results h₂) :
    Calls call (next :: rest) h (r :: results) h₂

/-- Calls that take no handler of an event away and put none in front. -/
def OnlyAdds (call : handler → EventHandlers event handler → Except error result × EventHandlers event handler)
    (e : event) : Prop :=
  ∀ next h, h.handlers e <+: (call next h).2.handlers e

theorem drop_of_getElem? {front all : List handler} {next : handler} (grows : front <+: all)
    (there : front[place]? = some next) : all.drop place = next :: all.drop (place + 1) := by
  obtain ⟨back, rfl⟩ := grows
  obtain ⟨inside, rfl⟩ := List.getElem?_eq_some_iff.mp there
  have further : place < (front ++ back).length := by
    rw [List.length_append]
    exact Nat.lt_add_right _ inside
  rw [List.drop_eq_getElem_cons further, List.getElem_append_left inside]

/-- From some handler of an event on, all are called, those among them that are added on the way. -/
theorem dispatchFrom_ok (adds : OnlyAdds call e)
    (done : dispatchFrom call e limit place h = (.ok results, h')) (ended : results.length < limit) :
    Calls call ((h'.handlers e).drop place) h results h' ∧ h.handlers e <+: h'.handlers e := by
  induction limit generalizing place h results with
  | zero => exact absurd ended (Nat.not_lt_zero _)
  | succ limit ih =>
    unfold dispatchFrom at done
    cases there : (h.handlers e)[place]? with
    | none =>
      rw [there] at done
      cases done
      rw [List.drop_eq_nil_of_le (List.getElem?_eq_none_iff.mp there)]
      exact ⟨.nil, List.prefix_rfl⟩
    | some next =>
      rw [there] at done
      dsimp only at done
      have first := adds next h
      rcases returned : call next h with ⟨r | r, h₁⟩
      · rw [returned] at done
        cases done
      rw [returned] at done first
      dsimp only at done
      rcases went : dispatchFrom call e limit (place + 1) h₁ with ⟨rs | rs, h₂⟩
      · rw [went] at done
        cases done
      rw [went] at done
      cases done
      obtain ⟨later, grows⟩ := ih went (Nat.lt_of_succ_lt_succ ended)
      rw [drop_of_getElem? (first.trans grows) there]
      exact ⟨.cons returned later, first.trans grows⟩

theorem dispatchFrom_error (adds : OnlyAdds call e)
    (failed : dispatchFrom call e limit place h = (.error err, h')) : ∃ called next results h₁,
      called ++ [next] <+: (h'.handlers e).drop place ∧ Calls call called h results h₁ ∧
      call next h₁ = (.error err, h') ∧ h.handlers e <+: h'.handlers e := by
  induction limit generalizing place h with
  | zero => cases failed
  | succ limit ih =>
    unfold dispatchFrom at failed
    cases there : (h.handlers e)[place]? with
    | none =>
      rw [there] at failed
      cases failed
    | some next =>
      rw [there] at failed
      dsimp only at failed
      have first := adds next h
      rcases returned : call next h with ⟨r | r, h₁⟩
      · rw [returned] at failed first
        cases failed
        rw [drop_of_getElem? first there]
        exact ⟨[], next, [], h, ⟨_, rfl⟩, .nil, returned, first⟩
      rw [returned] at failed first
      dsimp only at failed
      rcases went : dispatchFrom call e limit (place + 1) h₁ with ⟨rs | rs, h₂⟩
      · rw [went] at failed
        cases failed
        obtain ⟨called, last, results, h₃, listed, before, raised, grows⟩ := ih went
        rw [drop_of_getElem? (first.trans grows) there]
        exact ⟨next :: called, last, r :: results, h₃, List.cons_prefix_cons.mpr ⟨rfl, listed⟩,
          .cons returned before, raised, first.trans grows⟩
      · rw [went] at failed
        cases failed

/-- A dispatch that comes to its end has called every handler that the event has by then, each once and in
the order in which they were added. An event without handlers calls none. -/
theorem dispatch_calls (adds : OnlyAdds call e) (done : h.dispatch call limit e = (.ok results, h'))
    (ended : results.length < limit) : Calls call (h'.handlers e) h results h' := by
  unfold dispatch at done
  split at done
  · rename_i empty
    cases done
    rw [List.isEmpty_iff.mp empty]
    exact .nil
  · exact (dispatchFrom_ok adds done ended).1

/-- A dispatch that fails has called the handlers of the event up to the one that fails, and none behind. -/
theorem dispatch_fails (adds : OnlyAdds call e) (failed : h.dispatch call limit e = (.error err, h')) :
    ∃ called next results h₁, called ++ [next] <+: h'.handlers e ∧ Calls call called h results h₁ ∧
      call next h₁ = (.error err, h') := by
  unfold dispatch at failed
  split at failed
  · cases failed
  · obtain ⟨called, next, results, h₁, listed, before, raised, -⟩ := dispatchFrom_error adds failed
    exact ⟨called, next, results, h₁, listed, before, raised⟩

end PluginBuild.EventHandlers
