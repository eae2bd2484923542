import StreamRelay.Binary64

/-!
# Values

What an event, a context or a log field may hold. A dictionary is the list of its entries in order
of insertion; `Value.equals` is the equality that the checks use, under which numbers compare by
magnitude whatever their kind, byte strings by content, and a list is never a tuple.
-/

namespace StreamRelay

/-- A dynamically typed value. A `buffer` is a byte string that its owner may still change. -/
inductive Value where
  | null
  | bool (b : Bool)
  | int (n : Int)
  | float (x : Binary64)
  | text (s : String)
  | bytes (bs : List UInt8)
  | buffer (bs : List UInt8)
  | list (vs : List Value)
  | tuple (vs : List Value)
  | dict (entries : List (Value × Value))
deriving Inhabited

namespace Value

def typeName : Value → String
  | null => "NoneType"
  | bool _ => "bool"
  | int _ => "int"
  | float _ => "float"
  | text _ => "str"
  | bytes _ => "bytes"
  | buffer _ => "bytearray"
  | list _ => "list"
  | tuple _ => "tuple"
  | dict _ => "dict"

/-- A value counts as true unless it is null, false, zero or empty. -/
def isTruthy : Value → Bool
  | null => false
  | bool b => b
  | int n => n != 0
  | float x => !x.isZero
  | text s => s != ""
  | bytes bs => !bs.isEmpty
  | buffer bs => !bs.isEmpty
  | list vs => !vs.isEmpty
  | tuple vs => !vs.isEmpty
  | dict es => !es.isEmpty

/-! ### Parts -/

/-- The entry of a dictionary under a text key. -/
def lookup? (key : String) : List (Value × Value) → Option Value
  | [] => none
  | (text k, v) :: es => if k = key then some v else lookup? key es
  | _ :: es => lookup? key es

def entries? : Value → Option (List (Value × Value))
  | dict es => some es
  | _ => none

/-- The value under a text key, null where the dictionary has none. -/
def getD (key : String) (es : List (Value × Value)) : Value := (lookup? key es).getD null

def members? : Value → Option (List Value)
  | list vs => some vs
  | tuple vs => some vs
  | _ => none

/-- What iteration goes through: members, characters, bytes, or keys. -/
def items? : Value → Option (List Value)
  | list vs => some vs
  | tuple vs => some vs
  | text s => some (s.toList.map fun c => text (String.singleton c))
  | bytes bs => some (bs.map fun b => int b.toNat)
  | buffer bs => some (bs.map fun b => int b.toNat)
  | dict es => some (es.map Prod.fst)
  | _ => none

/-! ### Equality -/

/-- A whole number equals a float of exactly its magnitude. -/
def intEqualsFloat (n : Int) (x : Binary64) : Bool := x.units? == some (n * Binary64.one)

/-- Equality of values that hold no others. -/
def scalarEquals : Value → Value → Bool
  | null, null => true
  | bool a, bool b => a == b
  | bool a, int n => a.toInt == n
  | int m, bool b => m == b.toInt
  | int m, int n => m == n
  | bool a, float y => intEqualsFloat a.toInt y
  | float x, bool b => intEqualsFloat b.toInt x
  | int m, float y => intEqualsFloat m y
  | float x, int n => intEqualsFloat n x
  | float x, float y => x.equals y
  | text s, text t => s == t
  | bytes a, bytes b => a == b
  | bytes a, buffer b => a == b
  | buffer a, bytes b => a == b
  | buffer a, buffer b => a == b
  | _, _ => false

mutual

/-- Equality: by content within a kind, by magnitude between kinds of numbers. -/
def equals : Value → Value → Bool
  | list vs, list ws => allEqual vs ws
  | tuple vs, tuple ws => allEqual vs ws
  | dict es, dict fs => es.length == fs.length && allFound es fs
  | v, w => scalarEquals v w

def allEqual : List Value → List Value → Bool
  | [], [] => true
  | v :: vs, w :: ws => equals v w && allEqual vs ws
  | _, _ => false

/-- Each entry of the first dictionary has an equal one in the second. -/
def allFound : List (Value × Value) → List (Value × Value) → Bool
  | [], _ => true
  | (k, v) :: es, fs => fs.any (fun f => equals k f.1 && equals v f.2) && allFound es fs

end

/-! ### Dictionaries -/

/-- Sets the value of a key: an equal key keeps its place and its own form. -/
def put (key value : Value) : List (Value × Value) → List (Value × Value)
  | [] => [(key, value)]
  | (k, v) :: es => if equals k key then (k, value) :: es else (k, v) :: put key value es

/-- The dictionary that a list of entries builds, read from the left. -/
def ofEntries (es : List (Value × Value)) : Value :=
  dict (es.foldl (fun d e => put e.1 e.2 d) [])

end Value

end StreamRelay
