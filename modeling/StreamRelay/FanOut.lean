import StreamRelay.Dispatch

/-!
# Fan-out

A batch of records is offered record by record, and an accepted one becomes a task for each queue.
No task has a turn before all records were offered; then all have turns until they end, and the
publisher is left. A fault in a record leaves the publisher at once, and the tasks created before
are drained without it.
-/

namespace StreamRelay.FanOut

variable {σ π : Type}

/-- The messages that a decision calls for: one for each queue if it accepts. -/
def messagesOf (queues : Value) : Decision → Logged (List Message)
  | .skipped _ => return []
  | .accepted image =>
    match queues.items? with
    | none => throw (.notSized queues.typeName)
    | some qs => do
      Log.write Task.logger .info "Sending record" [("queues", .int qs.length)]
      image.messagesTo qs

def messages (queues expected : Value) (record : StreamRecord) : Logged (List Message) := do
  Log.write Task.logger .debug "Checking record" []
  messagesOf queues (← record.decision expected)

def offer (queues expected raw : Value) : Logged (List (Task π)) :=
  let record := StreamRecord.ofValue raw
  Logged.binding record.context do
    let messages ← messages queues expected record
    let names ← Logged.bound
    return messages.map (Task.create names)

/-- Offers records in order: the tasks created, and the fault at which the offering stopped. -/
def offerAll (queues expected : Value) :
    List Value → StateM Log (List (Task π) × Option Fault)
  | [] => return ([], none)
  | raw :: rest => do
    match ← (offer queues expected raw).run with
    | .error fault => return ([], some fault)
    | .ok ts =>
      let (us, fault?) ← offerAll queues expected rest
      return (ts ++ us, fault?)

/-- Leaves a publisher with a result; a fault in leaving wins. -/
def leave {α : Type} (p : Publisher σ π) (result : Except Fault α) :
    StateM (Relay σ) (Except Fault α) :=
  (Action.andFinally (ExceptT.mk (pure result)) p.leave).run

/-- Waits for new tasks and leaves the publisher. When a task breaks off, that is known a round
later, and acted on the round after at the task's place in the queue. -/
def await (p : Publisher σ π) (tasks : List (Task π)) : StateM (Relay σ) (Ending π Tally) := do
  let ts ← Task.settle p tasks
  match ts.findSome? Task.fault? with
  | none => return .clear (← leave p (.ok (Task.tally ts)))
  | some fault =>
    let place := ts.findIdx fun t => t.fault?.isSome
    let ts ← Task.round p ts
    let before ← Task.round p (ts.take place)
    return ⟨← leave p (.error fault), before, ts.drop place⟩

/-- Ends a delivery after the offering: waits for the tasks, or leaves at once with a fault. -/
def close (p : Publisher σ π) (tasks : List (Task π)) :
    Option Fault → StateM (Relay σ) (Ending π Tally)
  | none => await p tasks
  | some fault => return ⟨← leave p (.error fault), tasks, []⟩

/-- Sends the accepted records of a batch to all queues, up to the tally of the sends. -/
def deliver (p : Publisher σ π) (expected queues records : Value) :
    StateM (Relay σ) (Ending π Tally) := do
  match ← p.enter.run with
  | .error fault => return .clear (.error fault)
  | .ok () =>
    match records.items? with
    | none => return .clear (← leave p (.error (.notIterable records.typeName)))
    | some raws =>
      let (tasks, fault?) ← Relay.onLog (offerAll queues expected raws)
      close p tasks fault?

/-- Delivers a batch, and ends the tasks that are left over. -/
def run (p : Publisher σ π) (expected queues records : Value) :
    StateM (Relay σ) (Except Fault Tally) := do
  (← deliver p expected queues records).drain p

end StreamRelay.FanOut
