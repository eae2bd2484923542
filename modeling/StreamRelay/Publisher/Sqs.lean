import StreamRelay.Publisher

/-!
# The SQS publisher

A publisher that sends requests through clients of a session. Entering opens a client and puts it
into a slot, leaving empties the slot and closes what it held. A send that finds the slot empty
opens a client for itself, and leaves when it ends, however it ends. The session answers by a script
and keeps a history of what was asked of it.
-/

namespace StreamRelay.Sqs

def logger : String := "trigger_handler.infrastructure.adapters.sqs_queue_publisher"

/-- How a request goes: the turns it waits, and its answer. -/
structure Step where
  yields : Nat
  fault : Option Fault
  /-- What the service answers; none stands for an identifier made from the request's number. -/
  response : Option Value

/-- The step of a request of which the script says nothing. -/
def Step.plain : Step := ⟨0, none, none⟩

/-- The faults of the creations, openings and closings of clients, and the steps of the requests,
each by its number. -/
structure Script where
  creates : List (Option Fault)
  opens : List (Option Fault)
  closes : List (Option Fault)
  sends : List (Option Step)

def Script.empty : Script := ⟨[], [], [], []⟩

/-- The slot of a sender: the client that carries requests, and the client that leaving closes. -/
structure Slot where
  client : Option Nat
  toClose : Option Nat
deriving DecidableEq

def Slot.empty : Slot := ⟨none, none⟩

def Slot.holding (n : Nat) : Slot := ⟨some n, some n⟩

/-! ### Sessions -/

/-- What happens in a session. A creation comes with the settings asked for; a creation or opening
that fails is followed by `notOpened`. -/
inductive Event where
  | created (settings : Context)
  | opened (client : Nat)
  | notOpened
  | closed (client : Nat)
  | requested (client : Nat) (request : Request)
  | slot (s : Slot)

namespace Event

def settings? : Event → Option Context
  | created settings => some settings
  | _ => none

def opened? : Event → Option Nat
  | opened n => some n
  | _ => none

def closed? : Event → Option Nat
  | closed n => some n
  | _ => none

def request? : Event → Option (Nat × Request)
  | requested n r => some (n, r)
  | _ => none

end Event

/-- A session: its script, and what happened in it so far. -/
structure Session where
  script : Script
  history : List Event

namespace Session

variable (s : Session)

def created : List Context := s.history.filterMap Event.settings?

def opened : List Nat := s.history.filterMap Event.opened?

def closed : List Nat := s.history.filterMap Event.closed?

/-- The requests made, in order, each with the client that carried it. -/
def requests : List (Nat × Request) := s.history.filterMap Event.request?

def note (e : Event) : Session := { s with history := s.history ++ [e] }

@[simp] theorem script_note (e : Event) : (s.note e).script = s.script := rfl

theorem created_note (e : Event) : (s.note e).created = s.created ++ e.settings?.toList := by
  simp only [created, note, List.filterMap_append]; cases e <;> rfl

theorem opened_note (e : Event) : (s.note e).opened = s.opened ++ e.opened?.toList := by
  simp only [opened, note, List.filterMap_append]; cases e <;> rfl

theorem closed_note (e : Event) : (s.note e).closed = s.closed ++ e.closed?.toList := by
  simp only [closed, note, List.filterMap_append]; cases e <;> rfl

theorem requests_note (e : Event) : (s.note e).requests = s.requests ++ e.request?.toList := by
  simp only [requests, note, List.filterMap_append]; cases e <;> rfl

def open? (settings : Context) : Except Fault Nat × Session :=
  let n := s.created.length
  let s := s.note (.created settings)
  match ((s.script.creates[n]?).join).or (s.script.opens[n]?).join with
  | some fault => (.error fault, s.note .notOpened)
  | none => (.ok n, s.note (.opened n))

def close (n : Nat) : Except Fault Unit × Session :=
  match (s.script.closes[s.closed.length]?).join with
  | some fault => (.error fault, s.note (.closed n))
  | none => (.ok (), s.note (.closed n))

def step (i : Nat) : Step := ((s.script.sends[i]?).join).getD .plain

end Session

/-! ### Senders -/

/-- The state of an SQS publisher. -/
structure Sender where
  region : Value
  endpointUrl : Value
  slot : Slot
  session : Session

namespace Sender

/-- A sender that was never used. -/
def new (region endpointUrl : Value) (script : Script) : Sender :=
  ⟨region, endpointUrl, .empty, ⟨script, []⟩⟩

/-- The settings of the clients of a sender; an endpoint that is empty is left out. -/
def settings (a : Sender) : Context :=
  ("region_name", a.region) ::
    (if a.endpointUrl.isTruthy then [("endpoint_url", a.endpointUrl)] else [])

def setSlot (a : Sender) (s : Slot) : Sender :=
  { a with slot := s, session := a.session.note (.slot s) }

end Sender

/-- A request that waits for its answer: its number, the destination of its message, its step, and
whether the send opened a client for itself. -/
structure Pending where
  index : Nat
  destination : Value
  step : Step
  ownClient : Bool

/-- Runs an operation of the session. -/
def onSession {α : Type} (f : Session → Except Fault α × Session) : Action Sender α := fun r =>
  let (result, session) := f r.publisher.session
  (result, { r with publisher := { r.publisher with session } })

/-- Opens a client and puts it into the slot; what the slot held before stays open. A fault of the
transport or of a value makes the publisher unavailable. -/
def occupy : Action Sender Nat := do
  let a ← Action.publisher
  match ← (onSession (·.open? a.settings)).attempt with
  | .ok n =>
    Action.setPublisher ((← Action.publisher).setSlot (.holding n))
    return n
  | .error fault =>
    if fault.preventsOpening then
      Log.write logger .error "Cannot open SQS client"
        [("region", a.region), ("endpoint_url", a.endpointUrl), ("error", .text fault.message)]
      throw (.publisherUnavailable fault.message)
    else throw fault

def enter : Action Sender Unit := do
  let _ ← occupy

/-- Empties the slot and closes what it held. -/
def leave : Action Sender Unit := do
  let a ← Action.publisher
  Action.setPublisher (a.setSlot .empty)
  match a.slot.toClose with
  | some n => onSession (·.close n)
  | none => return ()

/-! ### Sends -/

/-- Makes the request of a message on the given client. -/
def ask (m : Message) (client : Nat) (ownClient : Bool) : Action Sender (Nat × Pending) := do
  let request ← (m.request : Except Fault Request)
  let a ← Action.publisher
  let index := a.session.requests.length
  let step := a.session.step index
  Action.setPublisher { a with session := a.session.note (.requested client request) }
  return (step.yields, ⟨index, m.destination, step, ownClient⟩)

/-- The first half of a send. -/
def begin (m : Message) : Action Sender (Nat × Pending) := do
  match (← Action.publisher).slot.client with
  | some n => ask m n false
  | none =>
    let n ← occupy
    (ask m n true).onFault leave

/-- The receipt for a message that the service took under an identifier. -/
def accept (p : Pending) (id : Value) : Logged Receipt := do
  Log.write logger .debug "SQS message sent" [("queue", p.destination), ("message_id", id)]
  return ⟨.bool true, p.destination, id, .null⟩

/-- The receipt for an answer of the service; faults of the service and the transport are failed
sends. -/
def receipt (p : Pending) : Logged Receipt :=
  match p.step.fault with
  | some fault =>
    if fault.isTransport then do
      Log.write logger .error "SQS send failed"
        [("queue", p.destination), ("error", .text fault.message)]
      return ⟨.bool false, p.destination, .null, .text fault.message⟩
    else throw fault
  | none =>
    match p.step.response with
    | some (.dict es) => accept p (Value.getD "MessageId" es)
    | some v => throw (.noSuchMember v.typeName "get")
    | none => accept p (.text ("sqs-" ++ toString (p.index + 1)))

/-- The second half of a send. -/
def finish (p : Pending) : Action Sender Receipt :=
  if p.ownClient then (Action.ofLogged (receipt p)).andFinally leave
  else Action.ofLogged (receipt p)

def abandon (p : Pending) : Action Sender Unit :=
  if p.ownClient then leave else return ()

def publisher : Publisher Sender Pending := ⟨enter, leave, begin, finish, abandon⟩

end StreamRelay.Sqs
