import StreamRelay.Binary64.Decimal
import StreamRelay.Fault
import StreamRelay.Value

/-!
# The text of a value

`display` writes a value so that its kind and all its parts show: texts quoted, a tuple of one
member with a comma, a buffer under the name of its type. A whole number of too many digits has no
text, and neither has a value that holds one.
-/

namespace StreamRelay.Value

/-- The most digits that a whole number is written with. -/
def mostDigits : Nat := 4300

/-- The digits of a whole number, where they are not too many. -/
def decimal (n : Int) : Except Fault String :=
  if n.natAbs.repr.length ≤ mostDigits then .ok (toString n) else .error .tooManyDigits

def commaSeparated (ts : List String) : String := ", ".intercalate ts

mutual

/-- The text of a value. -/
def display : Value → Except Fault String
  | null => return "None"
  | bool b => return if b then "True" else "False"
  | int n => decimal n
  | float x => return x.toText
  | text s => return Text.quoted s
  | bytes bs => return Text.quotedBytes bs
  | buffer bs => return Text.quotedBuffer bs
  | list vs => return "[" ++ commaSeparated (← displayAll vs) ++ "]"
  | tuple [v] => return "(" ++ (← display v) ++ ",)"
  | tuple vs => return "(" ++ commaSeparated (← displayAll vs) ++ ")"
  | dict es => return "\x7b" ++ commaSeparated (← displayEntries es) ++ "\x7d"

def displayAll : List Value → Except Fault (List String)
  | [] => return []
  | v :: vs => return (← display v) :: (← displayAll vs)

def displayEntries : List (Value × Value) → Except Fault (List String)
  | [] => return []
  | (k, v) :: es => return ((← display k) ++ ": " ++ (← display v)) :: (← displayEntries es)

end

end StreamRelay.Value
