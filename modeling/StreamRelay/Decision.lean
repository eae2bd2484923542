import StreamRelay.StreamRecord

/-!
# Decisions

A record is accepted when it comes from the expected source and its new image has the required
fields and a checksum that differs from the old image's. The first check that fails gives the
reason for skipping it.
-/

namespace StreamRelay

/-- Why a record is not sent on. -/
inductive SkipReason where
  | wrongSource
  | noNewImage
  | invalidNewImage
  | noChecksum
  | unchanged
deriving DecidableEq, Repr

def SkipReason.text : SkipReason → String
  | wrongSource => "wrong_source"
  | noNewImage => "no_new_image"
  | invalidNewImage => "invalid_new_image"
  | noChecksum => "no_checksum"
  | unchanged => "unchanged"

/-- What is done with a record. -/
inductive Decision where
  | accepted (newImage : Image)
  | skipped (reason : SkipReason)

namespace Decision

def logger : String := "trigger_handler.application.services.record_filter"

def skipReason? : Decision → Option SkipReason
  | accepted _ => none
  | skipped reason => some reason

def newImage? : Decision → Option Image
  | accepted image => some image
  | skipped _ => none

end Decision

namespace Image

def requiredFields : List (String × Tag) :=
  [("XML", .binary), ("Identifier", .string), ("BaseUrl", .string)]

/-- The names among `fields` that are absent, each logged. -/
def absentAmong (i : Image) : List (String × Tag) → Logged (List String)
  | [] => return []
  | (name, tag) :: fields => do
    match ← i.get? name tag with
    | some _ => i.absentAmong fields
    | none =>
      Log.write Decision.logger .info "New item missing field" [("field", .text name)]
      return name :: (← i.absentAmong fields)

def absentFields (i : Image) : Logged (List String) := i.absentAmong requiredFields

def absentFieldsOf : Option Image → Logged (List String)
  | some i => i.absentFields
  | none => throw (.noSuchMember "NoneType" "get_value")

def payload? (i : Image) : Logged (Option (List UInt8)) := i.binary? "XML"

def checksum? (i : Image) : Logged (Option (List UInt8)) := i.binary? "XMLChecksum"

end Image

namespace StreamRecord

/-- Skips a record for a reason, with a line in the log. -/
def skip (reason : SkipReason) (level : Log.Level) (event : String) (fields : Context) :
    Logged Decision := do
  Log.write Decision.logger level event fields
  return .skipped reason

/-- The checksum of the old image, none where there is no old image. -/
def oldChecksum? (r : StreamRecord) : Logged (Option (List UInt8)) :=
  match r.oldImage with
  | none => return none
  | some old => old.checksum?

/-- The check that the content changed, on a new image with a checksum. -/
def checkChange (r : StreamRecord) (image : Image) (sum : List UInt8) : Logged Decision := do
  if (← r.oldChecksum?) = some sum then
    skip .unchanged .info "Old and new checksums match -- skipping record" []
  else return .accepted image

/-- The checks from that of the checksum on, on a new image with the required fields. -/
def checkSum (r : StreamRecord) (image : Image) : Logged Decision := do
  match ← image.checksum? with
  | none => skip .noChecksum .warning "New item has no checksum -- skipping record" []
  | some sum => r.checkChange image sum

/-- The checks from that of the required fields on. -/
def checkImage (r : StreamRecord) (image : Image) : Logged Decision := do
  let missing ← image.absentFields
  if missing = [] then r.checkSum image
  else
    skip .invalidNewImage .warning "New item is invalid -- skipping record"
      [("missing", .list (missing.map .text))]

def decision (r : StreamRecord) (expected : Value) : Logged Decision :=
  if r.source.equals expected then
    match r.newImage with
    | none => skip .noNewImage .warning "No new item -- skipping record" []
    | some image => r.checkImage image
  else
    skip .wrongSource .warning "Not a stream event from the expected source -- skipping record"
      [("event_source", r.source), ("expected_source", expected)]

end StreamRecord

end StreamRelay
