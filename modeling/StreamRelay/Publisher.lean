import StreamRelay.Message
import StreamRelay.Relay

/-!
# Publishers

A publisher is entered once for a batch and left once. A send on it has two halves: `begin` hands
the message over and says how many turns the answer takes, `finish` takes the answer; a send that is
given up in between is abandoned instead.
-/

namespace StreamRelay

/-- The result of a send that came to an end. -/
structure Receipt where
  success : Value
  destination : Value
  externalId : Value
  error : Value

/-- What a publisher with states `σ` offers; `π` describes a send that waits for its answer. -/
structure Publisher (σ π : Type) where
  enter : Action σ Unit
  leave : Action σ Unit
  begin : Message → Action σ (Nat × π)
  finish : π → Action σ Receipt
  abandon : π → Action σ Unit

end StreamRelay
