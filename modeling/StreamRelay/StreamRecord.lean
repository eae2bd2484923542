import StreamRelay.Image

/-!
# Stream records

One entry of the change stream: where it comes from, the item before and after the change, and what
identifies it. Any value reads as a record; what is missing or of another shape is null or absent.
-/

namespace StreamRelay

/-- One entry of the change stream. -/
structure StreamRecord where
  source : Value
  oldImage : Option Image
  newImage : Option Image
  eventName : Value
  eventId : Value

namespace StreamRecord

/-- The record of which nothing is known. -/
def blank : StreamRecord := ⟨.null, none, none, .null, .null⟩

def ofValue : Value → StreamRecord
  | .dict es =>
    let images := ((Value.getD "dynamodb" es).entries?).getD []
    { source := Value.getD "eventSource" es
      oldImage := Image.ofValue? (Value.getD "OldImage" images)
      newImage := Image.ofValue? (Value.getD "NewImage" images)
      eventName := Value.getD "eventName" es
      eventId := Value.getD "eventID" es }
  | _ => blank

/-- The names bound while the record is handled. -/
def context (r : StreamRecord) : Context :=
  [("event_id", r.eventId), ("event_name", r.eventName)]

end StreamRecord

end StreamRelay
