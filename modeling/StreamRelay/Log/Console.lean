import StreamRelay.Log
import StreamRelay.Value.Plain

/-!
# The console

The console prints the entries of a rank as dictionaries in plain form. Its first configuration
fixes the rank from which entries are printed; later ones change the name of the service only. An
entry that counts and has no plain form is refused.
-/

namespace StreamRelay.Log

/-- The state of the console: whether anything is printed, from which rank on entries count, and
the service that they name. -/
structure Console where
  installed : Bool
  threshold : Nat
  service : String
deriving DecidableEq

def Console.initial : Console := ⟨false, 30, "dynamodb-trigger-handler"⟩

/-! ### Level names -/

/-- What a level name in capitals stands for. -/
inductive LevelName where
  | rank (n : Nat)
  | text (s : String)
  | table (display : String)
deriving DecidableEq

/-- The names known in capitals; two of them are no levels. -/
def levelNames : List (String × LevelName) := [
  ("CRITICAL", .rank 50), ("FATAL", .rank 50), ("ERROR", .rank 40), ("WARNING", .rank 30),
  ("WARN", .rank 30), ("INFO", .rank 20), ("DEBUG", .rank 10), ("NOTSET", .rank 0),
  ("BASIC_FORMAT", .text "%(levelname)s:%(name)s:%(message)s"),
  ("_STYLES", .table ("\x7b'%': (<class 'logging.PercentStyle'>, "
    ++ "'%(levelname)s:%(name)s:%(message)s'), "
    ++ "'\x7b': (<class 'logging.StrFormatStyle'>, "
    ++ "'\x7blevelname\x7d:\x7bname\x7d:\x7bmessage\x7d'), "
    ++ "'$': (<class 'logging.StringTemplateStyle'>, "
    ++ "'$\x7blevelname\x7d:$\x7bname\x7d:$\x7bmessage\x7d')\x7d"))]

/-- The capitals of a character, where they are letters of the ASCII alphabet; any other character
is in no level name, and stays. -/
def capitals (c : Char) : List Char :=
  match c.toNat with
  | 0xdf => ['S', 'S']
  | 0x131 => ['I']
  | 0x17f => ['S']
  | 0xfb00 => ['F', 'F']
  | 0xfb01 => ['F', 'I']
  | 0xfb02 => ['F', 'L']
  | 0xfb03 => ['F', 'F', 'I']
  | 0xfb04 => ['F', 'F', 'L']
  | 0xfb05 => ['S', 'T']
  | 0xfb06 => ['S', 'T']
  | _ => [c.toUpper]

/-- What a level text stands for; an unknown one stands for the rank of information. -/
def levelOfText (s : String) : LevelName :=
  let key := String.ofList (s.toList.flatMap capitals)
  match levelNames.find? (·.1 = key) with
  | some (_, name) => name
  | none => .rank 20

/-- Configures the console. Where the level is refused, the console is installed nevertheless. -/
def Console.configure (service level : String) (c : Console) : Except Fault Unit × Console :=
  if c.installed then (.ok (), { c with service })
  else match levelOfText level with
    | .rank n => (.ok (), ⟨true, n, service⟩)
    | .text s => (.error (.unknownLevel s), { c with installed := true })
    | .table d => (.error (.levelNotText d), { c with installed := true })

/-! ### Lines -/

def ownNames : List String := ["event", "level", "logger", "timestamp"]

/-- The binding that brings the fault being handled, whose trace the line shows; no value is such a
fault, and the line shows nothing of it. -/
def handledName : String := "exc_info"

/-- The binding that brings a record to take the logger's name from; null brings none, and no other
value has a name. -/
def recordName : String := "_record"

/-- The name of the logger that wrote an entry; the one at the root is written without a name. -/
def Entry.loggerName (e : Entry) : String := if e.logger.isEmpty then "root" else e.logger

/-- The fields of a line: those of the entry, the console's own, and the service where the entry
names none. -/
def Console.fields (c : Console) (e : Entry) : Context :=
  let given := e.pairs.filter fun b => !(handledName :: ownNames).contains b.1
  let own : Context := [("event", .text e.event), ("logger", .text e.loggerName),
    ("level", .text e.level.text)]
  let all : Context := given ++ own
  if all.names.contains "service" then all else all ++ [("service", .text c.service)]

def Console.admits (c : Console) (e : Entry) : Bool := c.threshold ≤ e.level.rank

/-- The line of an entry, or why it has none: a record that is none, or a value without a plain
form. -/
def Console.render (c : Console) (e : Entry) : Except Fault Value :=
  match (e.pairs.find? fun b => b.1 = recordName).map Prod.snd with
  | none | some .null =>
    Value.plain (.dict ((c.fields e).map fun b => (.text b.1, b.2)))
  | some v => .error (.noSuchMember v.typeName "name")

def Console.refuse (c : Console) (e : Entry) : Option Fault :=
  if c.admits e then
    match c.render e with
    | .ok _ => none
    | .error fault => some fault
  else none

def Console.line? (c : Console) (e : Entry) : Option Value :=
  if c.installed && c.admits e then (c.render e).toOption else none

/-- A log that goes to the console. -/
def Console.log (c : Console) : Log := ⟨c.refuse, [], []⟩

end StreamRelay.Log
