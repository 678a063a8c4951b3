import Storefront.Log.Event
/-!
# Log — results with events

The result of an operation that may fail, together with the events that
happened on the way. What was told before a failure stays told.
-/

namespace Storefront

/-- A result and what happened on the way to it. -/
structure Told (ε α : Type) where
  result : Except ε α
  events : List Event := []

namespace Told

/-- A result without events. -/
def ok (x : α) : Told ε α := { result := .ok x }

/-- A failure without events. -/
def fail (e : ε) : Told ε α := { result := .error e }

/-- A result that was at hand. -/
def ofExcept (r : Except ε α) : Told ε α := { result := r }

/-- Just an event. -/
def tell (e : Event) : Told ε Unit := { result := .ok (), events := [e] }

/-- Just some events. -/
def tellAll (events : List Event) : Told ε Unit := { result := .ok (), events }

/-- Go on with a result, unless there is none. -/
def andThen (t : Told ε α) (next : α → Told ε β) : Told ε β :=
  match t.result with
  | .ok x => { next x with events := t.events ++ (next x).events }
  | .error e => { result := .error e, events := t.events }

instance : Monad (Told ε) where
  pure := ok
  bind := andThen

/-- Read a failure in another way. -/
def mapError (f : ε → δ) (t : Told ε α) : Told δ α :=
  { result := t.result.mapError f, events := t.events }

/-- Everything happened inside one more span. -/
def inside (s : Span) (t : Told ε α) : Told ε α :=
  { t with events := s.around t.events }

end Told

end Storefront
