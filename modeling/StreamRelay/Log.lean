import StreamRelay.Fault
import StreamRelay.Value

/-!
# The log

An entry says what happened, with fields of its own and the names that were bound around it. A log
keeps its entries in order and knows the bound names; where it goes may refuse an entry, which is
then not kept and ends the computation that wrote it. `Logged` is the type of computations that
write entries and may fail.
-/

namespace StreamRelay

/-- Names with values. -/
abbrev Context := List (String × Value)

namespace Context

/-- The bindings of a dictionary, whose keys have to be texts. -/
def ofEntries : List (Value × Value) → Except Fault Context
  | [] => .ok []
  | (.text name, v) :: es => do return (name, v) :: (← ofEntries es)
  | _ => .error .keyNotName

def names (c : Context) : List String := c.map Prod.fst

def without (c d : Context) : Context := c.filter fun b => !d.names.contains b.1

def sharing (c d : Context) : Context := c.filter fun b => d.names.contains b.1

/-- Binds the names of `d`, over bindings that `c` may have for them. -/
def bind (c d : Context) : Context := c.without d ++ d

/-- Takes back a binding of `d` after which the names were as in `c`: they get the values that
`before` had for them, and are unbound where it had none. -/
def unbind (c d before : Context) : Context := c.without d ++ before.sharing d

theorem without_append (b c d : Context) :
    Context.without (b ++ c) d = b.without d ++ c.without d := by simp [without]

theorem without_self (d : Context) : d.without d = [] := by
  simp only [without, names, List.filter_eq_nil_iff]
  exact fun b hb => by simpa using ⟨b.2, hb⟩

theorem sharing_of_without {c d : Context} (h : c.without d = c) : c.sharing d = [] := by
  simp only [without, List.filter_eq_self] at h
  simp only [sharing, List.filter_eq_nil_iff]
  exact fun b hb => by simpa using h b hb

theorem unbind_bind {c d : Context} (h : c.without d = c) : (c.bind d).unbind d c = c := by
  simp only [unbind, bind, h, without_append, without_self, sharing_of_without h, List.append_nil]

end Context

namespace Log

/-- How much an entry matters. -/
inductive Level where
  | debug
  | info
  | warning
  | error
  | critical
deriving DecidableEq, Repr

def Level.text : Level → String
  | debug => "debug"
  | info => "info"
  | warning => "warning"
  | error => "error"
  | critical => "critical"

def Level.rank : Level → Nat
  | debug => 10
  | info => 20
  | warning => 30
  | error => 40
  | critical => 50

/-- The calls that write an entry: one for each level, a second one for critical entries, and one
for the errors that come with an exception. -/
inductive Call where
  | named (level : Level)
  | fatal
  | exception
deriving DecidableEq, Repr

def Call.level : Call → Level
  | named level => level
  | fatal => .critical
  | exception => .error

def Call.text : Call → String
  | named level => level.text
  | fatal => "fatal"
  | exception => "exception"

/-- One entry; `logger` names the part of the program that wrote it. -/
structure Entry where
  level : Level
  logger : String
  event : String
  fields : Context
  bound : Context

/-- The fields of an entry and the bound names; a field wins over a binding of its name. -/
def Entry.pairs (e : Entry) : Context := e.fields ++ e.bound.without e.fields

end Log

/-- The log: the entries so far, the names bound at present, and why an entry is refused. -/
structure Log where
  refuse : Log.Entry → Option Fault
  bound : Context
  entries : List Log.Entry

/-- A log without entries or bound names that keeps all that is written. -/
def Log.empty : Log := ⟨fun _ => none, [], []⟩

def Log.Keeps (log : Log) : Prop := ∀ e, log.refuse e = none

theorem Log.keeps_empty : Log.empty.Keeps := fun _ => rfl

/-- A computation that writes to the log and may fail. -/
abbrev Logged := ExceptT Fault (StateM Log)

/-- Writes an entry under the names bound at present. -/
def Log.write (logger : String) (level : Log.Level) (event : String) (fields : Context) :
    Logged Unit := fun log =>
  let e : Log.Entry := ⟨level, logger, event, fields, log.bound⟩
  match log.refuse e with
  | some fault => (.error fault, log)
  | none => (.ok (), { log with entries := log.entries ++ [e] })

theorem Log.write_of_keeps {log : Log} (h : log.Keeps) (logger : String) (level : Log.Level)
    (event : String) (fields : Context) :
    Log.write logger level event fields log = (.ok (), { log with
      entries := log.entries ++ [⟨level, logger, event, fields, log.bound⟩] }) := by
  simp [Log.write, h _]

/-- Why a call with such fields is refused: one of them has the name of an argument that the call
has already, or the step behind it. -/
def Log.Call.refuse (call : Log.Call) (fields : Context) : Option Fault :=
  match fields.names.find? ["event", "self"].contains with
  | some name => some (.argumentTwice call.text name)
  | none =>
    if fields.names.contains "method_name" then
      some (.argumentTwice "_proxy_to_logger" "method_name")
    else none

/-- Makes a call that writes an entry, whose fields are the entries of a dictionary. -/
def Log.Call.run (call : Log.Call) (logger event : String)
    (entries : List (Value × Value)) : Logged Unit :=
  match Context.ofEntries entries with
  | .error fault => throw fault
  | .ok fields =>
    match call.refuse fields with
    | some fault => throw fault
    | none => Log.write logger call.level event fields

/-- Binds names around a computation and takes them back however it ends. -/
def Logged.binding {α : Type} (names : Context) (x : Logged α) : Logged α := fun log =>
  let (result, log') := x { log with bound := log.bound.bind names }
  (result, { log' with bound := log'.bound.unbind names log.bound })

/-- Binds the entries of a dictionary around a computation. -/
def Logged.bindingEntries {α : Type} (entries : List (Value × Value)) (x : Logged α) : Logged α :=
  match Context.ofEntries entries with
  | .error fault => throw fault
  | .ok names => x.binding names

def Logged.bound : Logged Context := fun log => (.ok log.bound, log)

end StreamRelay
