import StreamRelay.Text.Quoted

/-!
# Faults

Why an operation did not finish. A fault either arises in the relay itself, or comes from a
publisher, a queue service or its transport; `message` gives its text, and two classes decide who
handles it: a *transport* fault is a failed send, and a transport fault or a *value* fault while a
client is opened makes the publisher unavailable.
-/

namespace StreamRelay

/-- A request that the queue service answered with an error. -/
structure ServiceError where
  code : Option String
  message : Option String
  operation : String
  /-- The number of retries, where the attempts were used up. -/
  retries : Option Int
deriving DecidableEq

/-- A request that never got an answer. -/
inductive TransportError where
  | unspecified
  | noCredentials
  | noRegion
  | endpointConnection (endpoint : String)
  | connectTimeout (endpoint : String)
  | invalidParameters (report : String)
deriving DecidableEq

/-- The causes of failure. -/
inductive Fault where
  | unreadableBinary (name reason : String)
  | notAscii
  | unknownTag (tag : String)
  | publisherUnavailable (message : String)
  | bytesRequired (typeName : String)
  | notIterable (typeName : String)
  | notSized (typeName : String)
  | noSuchMember (typeName member : String)
  | keyNotPlain (typeName : String)
  | keyNotName
  | argumentTwice (call name : String)
  | unknownLevel (text : String)
  | levelNotText (display : String)
  | badValue (message : String)
  | badType (message : String)
  | badKey (message : String)
  | connection (message : String)
  | timeout (message : String)
  | runtime (message : String)
  | service (e : ServiceError)
  | transport (e : TransportError)
deriving DecidableEq

/-- The text of a service error; what it does not say is unknown. -/
def ServiceError.text (e : ServiceError) : String :=
  let retries := match e.retries with
    | some n => " (reached max retries: " ++ toString n ++ ")"
    | none => ""
  "An error occurred (" ++ e.code.getD "Unknown" ++ ") when calling the " ++ e.operation
    ++ " operation" ++ retries ++ ": " ++ e.message.getD "Unknown"

def TransportError.text : TransportError → String
  | unspecified => "An unspecified error occurred"
  | noCredentials => "Unable to locate credentials"
  | noRegion => "You must specify a region."
  | endpointConnection url => "Could not connect to the endpoint URL: \"" ++ url ++ "\""
  | connectTimeout url => "Connect timeout on endpoint URL: \"" ++ url ++ "\""
  | invalidParameters report => "Parameter validation failed:\n" ++ report

namespace Fault

/-- A whole number has more digits than are written. -/
def tooManyDigits : Fault := .badValue ("Exceeds the limit (4300 digits) for integer string "
  ++ "conversion; use sys.set_int_max_str_digits() to increase the limit")

def message : Fault → String
  | unreadableBinary name reason =>
    "Cannot decode binary attribute " ++ Text.quoted name ++ ": " ++ reason
  | notAscii => "string argument should contain only ASCII characters"
  | unknownTag tag => Text.quoted tag ++ " is not a valid AttributeType"
  | publisherUnavailable m => m
  | bytesRequired t => "a bytes-like object is required, not '" ++ t ++ "'"
  | notIterable t => "'" ++ t ++ "' object is not iterable"
  | notSized t => "object of type '" ++ t ++ "' has no len()"
  | noSuchMember t a => "'" ++ t ++ "' object has no attribute '" ++ a ++ "'"
  | keyNotPlain t => "keys must be str, int, float, bool or None, not " ++ t
  | keyNotName => "keywords must be strings"
  | argumentTwice call name =>
    "BoundLogger." ++ call ++ "() got multiple values for argument '" ++ name ++ "'"
  | unknownLevel text => "Unknown level: " ++ Text.quoted text
  | levelNotText d => "Level not an integer or a valid string: " ++ d
  | badValue m => m
  | badType m => m
  | badKey m => Text.quoted m
  | connection m => m
  | timeout m => m
  | runtime m => m
  | service e => e.text
  | transport e => e.text

/-- The queue service refused the request, or the transport lost it. -/
def isTransport : Fault → Bool
  | service _ => true
  | transport _ => true
  | _ => false

/-- A value was not acceptable, or the transport could not be set up: the faults that make a
publisher unavailable when they arise as its client is opened. -/
def preventsOpening : Fault → Bool
  | unreadableBinary _ _ => true
  | notAscii => true
  | unknownTag _ => true
  | unknownLevel _ => true
  | badValue _ => true
  | transport _ => true
  | _ => false

end Fault

end StreamRelay
