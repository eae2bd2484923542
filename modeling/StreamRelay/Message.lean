import StreamRelay.Decision

/-!
# Messages

An accepted image becomes one message per queue, all with the same content: the payload as the
body, the identifier and the base address as attributes. A request is the form in which a message
goes to the queue service, its body in base64.
-/

namespace StreamRelay

/-- Typed data that goes with a message. -/
structure Attribute where
  value : Value
  dataType : String

/-- A message for one queue. -/
structure Message where
  destination : Value
  body : Value
  attributes : List (String × Attribute)
  delaySeconds : Int

/-- A message as the queue service takes it. -/
structure Request where
  queueUrl : Value
  messageBody : String
  delaySeconds : Int
  attributes : List (String × Attribute)

/-- The request of a message, whose body has to be bytes. -/
def Message.request (m : Message) : Except Fault Request :=
  match m.body with
  | .bytes bs => .ok (carrying bs)
  | .buffer bs => .ok (carrying bs)
  | v => .error (.bytesRequired v.typeName)
where
  /-- The request of the message with the given body. -/
  carrying (bs : List UInt8) : Request :=
    ⟨m.destination, String.ofList (Base64.encode bs), m.delaySeconds, m.attributes⟩

/-- What the messages of one image share. -/
structure Content where
  payload : Option (List UInt8)
  identifier : Value
  baseUrl : Value

namespace Content

def dataType : String := "String"

def message (c : Content) (queue : Value) : Message where
  destination := queue
  body := (c.payload.map .bytes).getD .null
  attributes := [("Identifier", ⟨c.identifier, dataType⟩), ("BaseUrl", ⟨c.baseUrl, dataType⟩)]
  delaySeconds := 0

end Content

namespace Image

def content (i : Image) : Logged Content := do
  let payload ← i.payload?
  let identifier ← i.get? "Identifier" .string
  let baseUrl ← i.get? "BaseUrl" .string
  return ⟨payload, identifier.getD .null, baseUrl.getD .null⟩

/-- One message per queue with the content of an image. -/
def messagesTo (queues : List Value) (i : Image) : Logged (List Message) := do
  return queues.map (← i.content).message

/-- The messages for any value of queues and an image that may be missing. -/
def messagesFor (queues : Value) : Option Image → Logged (List Message)
  | none => throw (.noSuchMember "NoneType" "get_value")
  | some i => do
    let content ← i.content
    match queues.items? with
    | some qs => return qs.map content.message
    | none => throw (.notIterable queues.typeName)

end Image

end StreamRelay
