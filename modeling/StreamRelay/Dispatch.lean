import StreamRelay.Outcome
import StreamRelay.Send

/-!
# Dispatch tasks

A task sends one message and counts the result once. Tasks stand in a queue and are given turns in
its order, a round being one turn for each.
-/

namespace StreamRelay

/-- Where a task stands: its send is on its way, was counted, or the task broke off because its line
in the log was refused. -/
inductive Task.Stage (π : Type) where
  | sending (send : Send π)
  | counted (success : Bool)
  | broken (fault : Fault)

/-- The sending of one message, under the names that were bound when it was created. -/
structure Task (π : Type) where
  destination : Value
  bound : Context
  stage : Task.Stage π

namespace Task

variable {σ π : Type}

def logger : String := "trigger_handler.application.services.fan_out_service"

def create (bound : Context) (m : Message) : Task π := ⟨m.destination, bound, .sending (.fresh m)⟩

def fault? (t : Task π) : Option Fault :=
  match t.stage with
  | .broken fault => some fault
  | _ => none

def verdict? (t : Task π) : Option Bool :=
  match t.stage with
  | .counted success => some success
  | _ => none

/-- The number of turns until a task that has begun ends. -/
def remaining (t : Task π) : Nat :=
  match t.stage with
  | .sending send => send.remaining
  | _ => 0

/-- Reports the end of a send to a queue: a fault and a falsy success are failures. -/
def report (queue : Value) : Except Fault Receipt → Logged Bool
  | .error fault => do
    Log.write logger .warning "Dispatch raised"
      [("queue", queue), ("error", .text fault.message)]
    return false
  | .ok receipt =>
    if receipt.success.isTruthy then do
      Log.write logger .info "Message sent" [("queue", queue), ("message_id", receipt.externalId)]
      return true
    else do
      Log.write logger .warning "Message send failed" [("queue", queue), ("error", receipt.error)]
      return false

/-- Counts a send that has ended, and leaves any other as it is. -/
def conclude (t : Task π) : Send π → StateM (Relay σ) (Task π)
  | .ended result => do
    match ← Relay.onLog (report t.destination result).run with
    | .ok success => return { t with stage := .counted success }
    | .error fault => return { t with stage := .broken fault }
  | send => return { t with stage := .sending send }

/-- Gives a task one turn. -/
def turn (p : Publisher σ π) (t : Task π) : StateM (Relay σ) (Task π) :=
  match t.stage with
  | .sending send => Relay.under t.bound do t.conclude (← send.turn p)
  | _ => return t

def round (p : Publisher σ π) : List (Task π) → StateM (Relay σ) (List (Task π))
  | [] => return []
  | t :: ts => do return (← t.turn p) :: (← round p ts)

/-- Gives rounds to tasks, the given number of them, and stops after one in which a task broke
off. -/
def rounds (p : Publisher σ π) : Nat → List (Task π) → StateM (Relay σ) (List (Task π))
  | 0, ts => return ts
  | n + 1, ts =>
    if ts.any fun t => t.fault?.isSome then return ts
    else do rounds p n (← round p ts)

/-- The number of turns until all tasks have ended. -/
def longest : List (Task π) → Nat
  | [] => 0
  | t :: ts => max t.remaining (longest ts)

/-- Gives rounds to new tasks until all have ended, or one broke off. -/
def settle (p : Publisher σ π) (ts : List (Task π)) : StateM (Relay σ) (List (Task π)) := do
  let begun ← round p ts
  rounds p (longest begun) begun

/-- Gives up a task that waits. A fault in giving up its send is reported like any other. -/
def cancel (p : Publisher σ π) (t : Task π) : StateM (Relay σ) Unit :=
  match t.stage with
  | .sending (.waiting _ pending) => Relay.under t.bound do
    match ← (p.abandon pending).run with
    | .ok () => return ()
    | .error fault => do
      let _ ← t.conclude (.ended (.error fault))
  | _ => return ()

def cancelAll (p : Publisher σ π) : List (Task π) → StateM (Relay σ) Unit
  | [] => return ()
  | t :: ts => do
    t.cancel p
    cancelAll p ts

def tally (ts : List (Task π)) : Tally := (ts.filterMap verdict?).foldl Tally.count .zero

end Task

/-- A result that is known while tasks may still wait: `before` and `after` are those that precede
and follow, in the queue, the computation that gave the result. -/
structure Ending (π α : Type) where
  result : Except Fault α
  before : List (Task π)
  after : List (Task π)

namespace Ending

variable {σ π α : Type}

/-- A result with which no task waits. -/
def clear (result : Except Fault α) : Ending π α := ⟨result, [], []⟩

/-- Ends the tasks that are left over: the round is finished, each task has one more turn, and those
that still wait are given up. -/
def drain (p : Publisher σ π) (e : Ending π α) : StateM (Relay σ) (Except Fault α) := do
  let after ← Task.round p e.after
  let ts ← Task.round p (e.before ++ after)
  Task.cancelAll p ts
  return e.result

end Ending

end StreamRelay
