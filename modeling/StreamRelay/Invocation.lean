import StreamRelay.FanOut
import StreamRelay.Gate

/-!
# Invocations

An invocation takes an argument with queues and an event, checks both, sends the batch of the event
to the queues, and reports an outcome. The log names the request around all of it.
-/

namespace StreamRelay

/-- Queues and records that passed the gates. -/
structure Batch where
  queues : Value
  records : Value

namespace Invocation

variable {σ π : Type}

def logger : String := "trigger_handler.application.services.invocation_service"

def entryLogger : String := "trigger_handler.main"

/-- Goes on behind a gate, unless it stopped with an outcome. -/
def behind {α : Type} (next : Logged (Except Outcome α)) :
    Option Outcome → Logged (Except Outcome α)
  | some outcome => return .error outcome
  | none => next

/-- The batch of an argument, or the outcome of the gate that stopped it; the queues are checked
first. -/
def check (arg : Value) : Logged (Except Outcome Batch) :=
  let entries := arg.entries?.getD []
  let queues := Value.getD "queues" entries
  let event := Value.getD "event" entries
  let batch := ⟨queues, Gate.batch event⟩
  Gate.queues queues >>= behind (Gate.event event >>= behind (return .ok batch))

/-- The outcome of a batch of the given number of records. A publisher that could not be opened is
a failure to be reported, any other fault is passed on. -/
def report (records : Nat) : Except Fault Tally → Logged Outcome
  | .error (.publisherUnavailable message) => do
    Log.write logger .error "Publisher unavailable" [("error", .text message)]
    return .failed ("Cannot open publisher: " ++ message)
  | .error fault => throw fault
  | .ok tally => do
    Log.write logger .info "Invocation completed"
      [("records", .int records), ("successes", .int tally.successes),
        ("failures", .int tally.failures)]
    return .finished records tally

def answer (p : Publisher σ π) (expected arg : Value) : StateM (Relay σ) (Ending π Outcome) := do
  match ← Relay.onLog (check arg).run with
  | .error fault => return .clear (.error fault)
  | .ok (.error outcome) => return .clear (.ok outcome)
  | .ok (.ok batch) =>
    let e ← FanOut.deliver p expected batch.queues batch.records
    let records := (batch.records.members?.getD []).length
    return { e with result := ← Relay.onLog (report records e.result).run }

/-- Answers an argument, and ends the tasks that are left over. -/
def run (p : Publisher σ π) (expected arg : Value) : StateM (Relay σ) (Except Fault Outcome) := do
  (← answer p expected arg).drain p

/-- The identifier of a request in the attributes of its context; a missing or falsy one is
empty. -/
def requestId (context : Context) : Value :=
  match context.find? (·.1 = "aws_request_id") with
  | some (_, id) => if id.isTruthy then id else .text ""
  | none => .text ""

def announce (outcome : Outcome) : Logged Unit :=
  if outcome.isSuccess then
    Log.write entryLogger .info "Invocation succeeded" [("message", .text outcome.message)]
  else
    Log.write entryLogger .error "Invocation failed" [("message", .text outcome.message)]

/-- Serves a caller: runs the invocation with the request's identifier bound, and logs the
outcome. -/
def serve (p : Publisher σ π) (expected : Value) (context : Context) (arg : Value) :
    Action σ Outcome :=
  Action.binding [("correlation_id", requestId context)] do
    let outcome ← ExceptT.mk (run p expected arg)
    announce outcome
    return outcome

end Invocation

end StreamRelay
