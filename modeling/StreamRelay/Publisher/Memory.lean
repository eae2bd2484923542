import StreamRelay.Publisher

/-!
# The memory publisher

A publisher that keeps the messages it is given and answers by a script. `sent` has the messages in
the order in which their sends began, and `settled` their indices in the order in which they ended.
-/

namespace StreamRelay.Memory

/-- How a send goes: the turns it waits, and its answer. -/
structure Step where
  yields : Nat
  fault : Option Fault
  success : Value
  /-- The identifier given to the message; none stands for one made from its number. -/
  id : Option Value
  error : Value

/-- The step of a send of which the script says nothing. -/
def Step.plain : Step := ⟨0, none, .bool true, none, .null⟩

/-- The faults of the openings by their number, the steps by destination, and the steps of the
other sends by their number. -/
structure Script where
  opens : List (Option Fault)
  queues : List (String × Step)
  sends : List (Option Step)

def Script.empty : Script := ⟨[], [], []⟩

def Script.queue? (s : Script) : Value → Option Step
  | .text name => (s.queues.find? (·.1 = name)).map Prod.snd
  | _ => none

/-- The step of the `i`-th send, which goes to the given destination. -/
def Script.step (s : Script) (destination : Value) (i : Nat) : Step :=
  match s.queue? destination with
  | some step => step
  | none => ((s.sends[i]?).join).getD .plain

/-- The state of a memory publisher. -/
structure Store where
  script : Script
  entered : Nat
  exited : Nat
  sent : List Message
  settled : List Nat
  inFlight : Nat
  maxInFlight : Nat

def Store.ofScript (script : Script) : Store := ⟨script, 0, 0, [], [], 0, 0⟩

/-- A send that waits: its number, its destination and its step. -/
structure Pending where
  index : Nat
  destination : Value
  step : Step

namespace Store

def enter (s : Store) : Store := { s with entered := s.entered + 1 }

def leave (s : Store) : Store := { s with exited := s.exited + 1 }

def push (s : Store) (m : Message) : Store :=
  { s with
    sent := s.sent ++ [m]
    inFlight := s.inFlight + 1
    maxInFlight := max s.maxInFlight (s.inFlight + 1) }

def settle (s : Store) (i : Nat) : Store :=
  { s with settled := s.settled ++ [i], inFlight := s.inFlight - 1 }

def drop (s : Store) : Store := { s with inFlight := s.inFlight - 1 }

end Store

/-- The answer of a step to the `i`-th send. -/
def Pending.answer (p : Pending) : Except Fault Receipt :=
  match p.step.fault with
  | some fault => .error fault
  | none => .ok
    { success := p.step.success
      destination := p.destination
      externalId := p.step.id.getD (.text ("msg-" ++ toString (p.index + 1)))
      error := p.step.error }

def publisher : Publisher Store Pending where
  enter := do
    let s ← Action.publisher
    Action.setPublisher s.enter
    match (s.script.opens[s.entered]?).join with
    | some fault => throw fault
    | none => return ()
  leave := do Action.setPublisher (← Action.publisher).leave
  begin m := do
    let s ← Action.publisher
    Action.setPublisher (s.push m)
    let step := s.script.step m.destination s.sent.length
    return (step.yields, ⟨s.sent.length, m.destination, step⟩)
  finish p := do
    Action.setPublisher ((← Action.publisher).settle p.index)
    (p.answer : Except Fault Receipt)
  abandon _ := do Action.setPublisher (← Action.publisher).drop

end StreamRelay.Memory
