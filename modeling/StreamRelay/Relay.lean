import StreamRelay.Log

/-!
# Actions

An action works on a log and a publisher of some type; it may fail, and what it did before it failed
stays done. Names are bound around an action and taken back however it ends.
-/

namespace StreamRelay

/-- What actions work on. -/
structure Relay (σ : Type) where
  log : Log
  publisher : σ

/-- A computation on a relay that may fail. -/
abbrev Action (σ : Type) := ExceptT Fault (StateM (Relay σ))

/-- Runs a computation on the log alone. -/
def Relay.onLog {σ α : Type} (x : StateM Log α) : StateM (Relay σ) α := fun r =>
  let (a, log) := x r.log
  (a, { r with log })

/-- Runs a computation under names of its own, and puts the names bound before back in place. -/
def Relay.under {σ α : Type} (names : Context) (x : StateM (Relay σ) α) : StateM (Relay σ) α :=
  fun r =>
    let (a, r') := x { r with log := { r.log with bound := names } }
    (a, { r' with log := { r'.log with bound := r.log.bound } })

namespace Action

variable {σ α : Type}

/-- A computation on the log alone. -/
def ofLogged (x : Logged α) : Action σ α := ExceptT.mk (Relay.onLog x.run)

instance : MonadLift Logged (Action σ) := ⟨ofLogged⟩

def setPublisher (p : σ) : Action σ Unit := fun r => (.ok (), { r with publisher := p })

def publisher : Action σ σ := fun r => (.ok r.publisher, r)

/-- Binds names around an action. -/
def binding (names : Context) (x : Action σ α) : Action σ α := fun r =>
  let (result, r') := x { r with log := { r.log with bound := r.log.bound.bind names } }
  (result, { r' with log := { r'.log with bound := r'.log.bound.unbind names r.log.bound } })

/-- The result of an action, be it a value or a fault. -/
def attempt (x : Action σ α) : Action σ (Except Fault α) := fun r =>
  let (result, r') := x r
  (.ok result, r')

/-- Runs a second action however the first ended; a fault of the second wins. -/
def andFinally (x : Action σ α) (y : Action σ Unit) : Action σ α := fun r =>
  let (result, r') := x r
  match y r' with
  | (.ok (), r'') => (result, r'')
  | (.error fault, r'') => (.error fault, r'')

/-- Runs a second action if the first failed; a fault of the second wins. -/
def onFault (x : Action σ α) (y : Action σ Unit) : Action σ α := fun r =>
  match x r with
  | (.ok a, r') => (.ok a, r')
  | (.error fault, r') => andFinally (throw fault) y r'

end Action

end StreamRelay
