import StreamRelay.Base64
import StreamRelay.Log

/-!
# Item images

An image is one version of an item: attribute names mapped to wrappers, each a dictionary from a
type tag to a raw value. A lookup names the tag it expects, and a value under another tag reads as
absent. A binary value is base64 text or bytes; one that is neither, or is not base64, reads as
absent with a warning, but a text outside ASCII ends the lookup.
-/

namespace StreamRelay

/-- The type tags under which values are looked up. -/
inductive Tag where
  | string
  | number
  | binary
deriving DecidableEq, Repr

def Tag.letter : Tag → String
  | string => "S"
  | number => "N"
  | binary => "B"

def Tag.ofLetter (s : String) : Except Fault Tag :=
  if s = "S" then .ok .string
  else if s = "N" then .ok .number
  else if s = "B" then .ok .binary
  else .error (.unknownTag s)

/-- The bytes of a binary value: base64 text, or bytes as they are. -/
def readBinary (name : String) : Value → Except Fault (List UInt8)
  | .bytes bs => .ok bs
  | .buffer bs => .ok bs
  | .text s =>
    let cs := s.toList
    if cs.all fun c => c.toNat < 128 then
      (Base64.decode cs).mapError fun o => .unreadableBinary name o.text
    else .error .notAscii
  | v => .error (.unreadableBinary name ("unexpected " ++ v.typeName ++ " value"))

/-- One version of an item. -/
structure Image where
  attributes : List (Value × Value)

namespace Image

def logger : String := "trigger_handler.domain.value_objects.item_image"

/-- The image that a value holds: its entries, if it is a dictionary. -/
def ofValue? (v : Value) : Option Image := v.entries?.map Image.mk

def contains (i : Image) (name : String) : Bool := (Value.lookup? name i.attributes).isSome

/-- The raw value under a name and a tag, unless it is null. -/
def raw? (i : Image) (name : String) (tag : Tag) : Option Value := do
  let wrapper ← Value.lookup? name i.attributes
  let entries ← wrapper.entries?
  match ← Value.lookup? tag.letter entries with
  | .null => none
  | v => some v

def binary? (i : Image) (name : String) : Logged (Option (List UInt8)) :=
  match i.raw? name .binary with
  | none => return none
  | some raw =>
    match readBinary name raw with
    | .ok bs => return some bs
    | .error (.unreadableBinary _ reason) => do
      Log.write logger .warning "Unreadable binary attribute"
        [("attribute", .text name), ("error", .text reason)]
      return none
    | .error fault => throw fault

/-- The value under a name and a tag, bytes for a binary one. -/
def get? (i : Image) (name : String) (tag : Tag) : Logged (Option Value) :=
  match tag with
  | .binary => do return (← i.binary? name).map .bytes
  | tag => return i.raw? name tag

/-- The value under a name and the letter of a tag in an image that may be missing. The letter is
checked first. -/
def lookup (image : Option Image) (name letter : String) : Logged Value := do
  let tag ← (Tag.ofLetter letter : Except Fault Tag)
  match image with
  | none => return .null
  | some i => return (← i.get? name tag).getD .null

end Image

end StreamRelay
