import StreamRelay.Value.Display

/-!
# Plain values

A log line holds null, booleans, numbers, texts, lists, and dictionaries with text keys. `plain`
brings a value into that form: a byte string becomes its text, a tuple a list, and a key that is
null, a boolean or a number its spelling. A key of any other kind has no plain form, and neither has
a whole number of too many digits.
-/

namespace StreamRelay.Value

def floatKey : Binary64 → String
  | .nan => "NaN"
  | .infinite negative => if negative then "-Infinity" else "Infinity"
  | x => x.toText

/-- The text that stands for a key, or the fault of a value that no key may be. -/
def plainKey : Value → Except Fault String
  | text s => .ok s
  | null => .ok "null"
  | bool b => .ok (if b then "true" else "false")
  | int n => decimal n
  | float x => .ok (floatKey x)
  | v => .error (.keyNotPlain v.typeName)

mutual

/-- The plain form of a value, or the fault of a part that has none. -/
def plain : Value → Except Fault Value
  | int n => do
    let _ ← decimal n
    return int n
  | bytes bs => .ok (text (Text.quotedBytes bs))
  | buffer bs => .ok (text (Text.quotedBuffer bs))
  | list vs => do return list (← plainAll vs)
  | tuple vs => do return list (← plainAll vs)
  | dict es => do return ofEntries (← plainEntries es)
  | v => .ok v

def plainAll : List Value → Except Fault (List Value)
  | [] => .ok []
  | v :: vs => do return (← plain v) :: (← plainAll vs)

def plainEntries : List (Value × Value) → Except Fault (List (Value × Value))
  | [] => .ok []
  | (k, v) :: es => do
    let key ← plainKey k
    let value ← plain v
    return (text key, value) :: (← plainEntries es)

end

end StreamRelay.Value
