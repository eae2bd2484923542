import StreamRelay.Value

/-!
# Tallies and outcomes

A tally counts the sends of an invocation that succeeded and those that failed. An outcome is what
the invocation reports at its end.
-/

namespace StreamRelay

/-- The numbers of sends that succeeded and that failed. -/
structure Tally where
  successes : Int
  failures : Int
deriving DecidableEq, Repr

def Tally.zero : Tally := ⟨0, 0⟩

def Tally.count (t : Tally) (success : Bool) : Tally :=
  if success then { t with successes := t.successes + 1 } else { t with failures := t.failures + 1 }

/-- How an invocation ended. -/
inductive Status where
  | succeeded
  | failed
deriving DecidableEq, Repr

def Status.text : Status → String
  | succeeded => "succeeded"
  | failed => "failed"

/-- The report of an invocation. -/
structure Outcome where
  status : Status
  message : String
  records : Int
  tally : Tally
deriving DecidableEq

namespace Outcome

/-- An invocation that failed before anything was sent. -/
def failed (message : String) : Outcome := ⟨.failed, message, 0, .zero⟩

/-- An invocation that had nothing to send. -/
def idle (message : String) : Outcome := ⟨.succeeded, message, 0, .zero⟩

/-- An invocation that offered all its records. -/
def finished (records : Int) (tally : Tally) : Outcome where
  status := .succeeded
  message := "Tried to send " ++ toString records ++ ". Successes: " ++ toString tally.successes
    ++ ". Failures: " ++ toString tally.failures ++ "."
  records := records
  tally := tally

def isSuccess (o : Outcome) : Bool := o.status == .succeeded

end Outcome

end StreamRelay
