import StreamRelay.Publisher

/-!
# Sends

A send is given turns until it has ended. The first turn begins it, and one whose answer takes `n`
turns ends `n` turns later. Sends that run together have their turns in order, round by round.
-/

namespace StreamRelay

/-- A send: not yet begun, waiting for the given number of turns before the one that ends it, or at
its end. -/
inductive Send (π : Type) where
  | fresh (m : Message)
  | waiting (left : Nat) (pending : π)
  | ended (result : Except Fault Receipt)

namespace Send

variable {σ π : Type}

def finish (p : Publisher σ π) (pending : π) : StateM (Relay σ) (Send π) := do
  return .ended (← (p.finish pending).run)

def turn (p : Publisher σ π) : Send π → StateM (Relay σ) (Send π)
  | .fresh m => do
    match ← (p.begin m).run with
    | .ok (0, pending) => finish p pending
    | .ok (left + 1, pending) => return .waiting left pending
    | .error fault => return .ended (.error fault)
  | .waiting 0 pending => finish p pending
  | .waiting (left + 1) pending => return .waiting left pending
  | .ended result => return .ended result

/-- The number of turns until a send that has begun ends. -/
def remaining : Send π → Nat
  | .waiting left _ => left + 1
  | _ => 0

def result? : Send π → Option (Except Fault Receipt)
  | .ended result => some result
  | _ => none

/-! ### Sends that run together -/

def round (p : Publisher σ π) : List (Send π) → StateM (Relay σ) (List (Send π))
  | [] => return []
  | s :: ss => do return (← s.turn p) :: (← round p ss)

def rounds (p : Publisher σ π) : Nat → List (Send π) → StateM (Relay σ) (List (Send π))
  | 0, ss => return ss
  | n + 1, ss => do rounds p n (← round p ss)

/-- The number of turns until all sends have ended. -/
def longest : List (Send π) → Nat
  | [] => 0
  | s :: ss => max s.remaining (longest ss)

/-- Sends messages together; the results in the order of the messages. -/
def all (p : Publisher σ π) (ms : List Message) :
    StateM (Relay σ) (List (Except Fault Receipt)) := do
  let begun ← round p (ms.map .fresh)
  let ended ← rounds p (longest begun) begun
  return ended.filterMap result?

end Send

end StreamRelay
