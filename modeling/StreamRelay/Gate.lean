import StreamRelay.Log
import StreamRelay.Outcome
import StreamRelay.Value.Display

/-!
# Gates

The queues and the event of an invocation are checked before anything is sent. A gate lets the
invocation pass, or gives the outcome with which it ends. The outcome of a value that is no list
says what it is, which fails where the value has no text.
-/

namespace StreamRelay.Gate

def logger : String := "trigger_handler.application.validation"

/-- The gate for the queues: a list or tuple that is not empty passes. -/
def queues (v : Value) : Logged (Option Outcome) :=
  match v, v.members? with
  | .null, _ => do
    Log.write logger .error "Destination queues missing" []
    return some (.failed "`queues` is None")
  | v, none => do
    Log.write logger .error "Destination queues malformed" [("queues_type", .text v.typeName)]
    return some (.failed ("`queues` is not a list: " ++ (← v.display)))
  | _, some [] => do
    Log.write logger .info "No destination queues" []
    return some (.idle "`queues` is empty -- nothing to do.")
  | _, some _ => return none

/-- The batch of an event: what it has under `Records`, whatever that is, else under `records`. -/
def batch : Value → Value
  | .dict es => (Value.lookup? "Records" es).getD (Value.getD "records" es)
  | _ => .null

/-- The gate for the event: a dictionary whose batch is a list or tuple that is not empty passes. -/
def event (v : Value) : Logged (Option Outcome) :=
  match v, (batch v).members? with
  | .null, _ => do
    Log.write logger .error "Stream event missing" []
    return some (.failed "`event` is None")
  | v, none => do
    Log.write logger .error "Stream event has no record list"
      [("records_type", .text (batch v).typeName)]
    return some (.failed ("`event.Records` is not a list: " ++ (← (batch v).display)))
  | _, some [] => do
    Log.write logger .info "No records in event" []
    return some (.idle "No records in event -- nothing to do.")
  | _, some _ => return none

end StreamRelay.Gate
