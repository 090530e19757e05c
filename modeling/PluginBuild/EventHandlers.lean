/-!
Handlers by event, in the order in which they were added. While an event is dispatched, a handler may
add others; those that it adds to the same event are called as well, provided that the event had
handlers before.
-/

namespace PluginBuild

structure EventHandlers (event handler : Type) where
  entries : List (event × List handler)

namespace EventHandlers

variable {event handler result error : Type} [BEq event]

def empty : EventHandlers event handler := ⟨[]⟩

def on (h : EventHandlers event handler) (e : event) (added : handler) :
    EventHandlers event handler :=
  if h.entries.any (·.1 == e) then
    ⟨h.entries.map fun (e', hs) => if e' == e then (e', hs ++ [added]) else (e', hs)⟩
  else ⟨h.entries ++ [(e, [added])]⟩

def handlers (h : EventHandlers event handler) (e : event) : List handler :=
  ((h.entries.find? (·.1 == e)).map (·.2)).getD []

/-- Calls the handlers of an event from a place on, at most as many as the limit says. -/
def dispatchFrom
    (call : handler → EventHandlers event handler →
      Except error result × EventHandlers event handler)
    (e : event) : (limit place : Nat) → EventHandlers event handler →
      Except error (List result) × EventHandlers event handler
  | 0, _, h => (.ok [], h)
  | limit + 1, place, h =>
    match (h.handlers e)[place]? with
    | none => (.ok [], h)
    | some next =>
      match call next h with
      | (.error e, h) => (.error e, h)
      | (.ok r, h) =>
        match dispatchFrom call e limit (place + 1) h with
        | (.ok rs, h) => (.ok (r :: rs), h)
        | (.error e, h) => (.error e, h)

def dispatch
    (call : handler → EventHandlers event handler →
      Except error result × EventHandlers event handler)
    (limit : Nat) (h : EventHandlers event handler) (e : event) :
    Except error (List result) × EventHandlers event handler :=
  if (h.handlers e).isEmpty then (.ok [], h) else dispatchFrom call e limit 0 h

end EventHandlers

end PluginBuild
