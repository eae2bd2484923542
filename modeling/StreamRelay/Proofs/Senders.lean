import StreamRelay.Proofs.Offering
import StreamRelay.Publisher.Sqs

/-!
# A new sender and its first batch

What the operations of the SQS publisher do to a sender that was never used, on a log that keeps its
entries: entering opens the first client (`enter_run`) or fails (`enter_run_of_fault`), each send
makes its request on that client (`begin_run`), and leaving closes it, where a fault takes the place
of what the batch came to (`leave_run`).
-/

namespace StreamRelay.Sqs

open Relay

def Script.step (script : Script) (i : Nat) : Step := (⟨script, []⟩ : Session).step i

/-- The fault of the first opening of a client, at its creation or after it. -/
def Script.openFault? (script : Script) : Option Fault :=
  ((script.creates[0]?).join).or (script.opens[0]?).join

def Script.closeFault? (script : Script) : Option Fault := (script.closes[0]?).join

namespace Sender

variable (a : Sender)

/-- The sender after it was entered for the first time and made the given requests. -/
def serving (rs : List Request) : Sender :=
  ⟨a.region, a.endpointUrl, .holding 0, ⟨a.session.script,
    [.created a.settings, .opened 0, .slot (.holding 0)] ++ rs.map (.requested 0)⟩⟩

/-- The sender after it was entered for the first time, made the given requests, and was left. -/
def served (rs : List Request) : Sender :=
  let x := (a.serving rs).setSlot .empty
  { x with session := x.session.note (.closed 0) }

/-- The sender after its first client could not be opened. -/
def refused : Sender :=
  ⟨a.region, a.endpointUrl, .empty, ⟨a.session.script, [.created a.settings, .notOpened]⟩⟩

theorem session_serving (rs : List Request) :
    let s := (a.serving rs).session
    s.created = [a.settings] ∧ s.opened = [0] ∧ s.closed = [] ∧ s.requests = rs.map (0, ·) := by
  have hnone {β : Type} {f : Event → Option β} (h : ∀ r, f (.requested 0 r) = none) :
      (rs.map (Event.requested 0)).filterMap f = [] := by
    rw [List.filterMap_map]
    exact List.filterMap_eq_nil_iff.mpr fun r _ => h r
  refine ⟨?_, ?_, ?_, ?_⟩
  · exact congrArg (a.settings :: ·) (hnone fun _ => rfl)
  · exact congrArg (0 :: ·) (hnone fun _ => rfl)
  · exact hnone fun _ => rfl
  · show (rs.map (Event.requested 0)).filterMap Event.request? = _
    rw [List.filterMap_map]
    exact List.filterMap_eq_map ▸ rfl

theorem session_served (rs : List Request) :
    let s := (a.served rs).session
    s.created = [a.settings] ∧ s.opened = [0] ∧ s.closed = [0] ∧ s.requests = rs.map (0, ·) := by
  obtain ⟨hcreated, hopened, hclosed, hrequests⟩ := a.session_serving rs
  refine ⟨?_, ?_, ?_, ?_⟩
  · rw [served, Session.created_note, setSlot, Session.created_note, hcreated]; rfl
  · rw [served, Session.opened_note, setSlot, Session.opened_note, hopened]; rfl
  · rw [served, Session.closed_note, setSlot, Session.closed_note, hclosed]; rfl
  · rw [served, Session.requests_note, setSlot, Session.requests_note, hrequests]
    simp [Event.request?]

end Sender

/-! ### Entering and leaving -/

variable (b : Context) (es : List Log.Entry)

theorem onSession_run {α : Type} {f : Session → Except Fault α × Session} {x : Sender}
    {result : Except Fault α} {session : Session} (h : f x.session = (result, session)) :
    onSession f (Relay.keeping b es x) = (result, Relay.keeping b es { x with session }) := by
  unfold onSession
  rw [show f (Relay.keeping b es x).publisher.session = (result, session) from h]
  rfl

theorem attempt_open_run {x : Sender} {result : Except Fault Nat} {session : Session}
    (h : x.session.open? x.settings = (result, session)) :
    (onSession (·.open? (Relay.keeping b es x).publisher.settings)).attempt (Relay.keeping b es x) =
      (.ok result, Relay.keeping b es { x with session }) := by
  have hopen : onSession (·.open? x.settings) (Relay.keeping b es x) =
      (result, Relay.keeping b es { x with session }) := onSession_run b es h
  unfold Action.attempt
  rw [show onSession (·.open? (Relay.keeping b es x).publisher.settings) (Relay.keeping b es x) =
    (result, Relay.keeping b es { x with session }) from hopen]

variable (region endpointUrl : Value) {script : Script}

theorem open?_new (script : Script) :
    let a := Sender.new region endpointUrl script
    a.session.open? a.settings = match script.openFault? with
      | some fault => (.error fault, a.refused.session)
      | none => (.ok 0, ⟨script, [.created a.settings, .opened 0]⟩) := by
  intro a
  show (match script.openFault? with | some fault => _ | none => _) = _
  cases script.openFault? <;> rfl

theorem enter_run (h : script.openFault? = none) :
    publisher.enter.run (Relay.keeping b es (.new region endpointUrl script)) =
      (.ok (), Relay.keeping b es ((Sender.new region endpointUrl script).serving [])) := by
  have hopen := open?_new region endpointUrl script
  obtain ⟨a, ha⟩ : ∃ a, a = Sender.new region endpointUrl script := ⟨_, rfl⟩
  simp only [h, ← ha] at hopen
  rw [← ha]
  show enter (Relay.keeping b es a) = _
  rw [enter, except_bind_at, occupy, except_bind_at]
  simp only [Action.publisher]
  rw [except_bind_at, attempt_open_run b es hopen, ha]
  rfl

theorem enter_run_of_fault {fault : Fault} (h : script.openFault? = some fault) :
    ∃ fault' es', publisher.enter.run (Relay.keeping b es (.new region endpointUrl script)) =
      (.error fault', Relay.keeping b es' (Sender.new region endpointUrl script).refused) := by
  have hopen := open?_new region endpointUrl script
  obtain ⟨a, ha⟩ : ∃ a, a = Sender.new region endpointUrl script := ⟨_, rfl⟩
  simp only [h, ← ha] at hopen
  rw [← ha]
  show ∃ fault' es', enter (Relay.keeping b es a) = _
  rw [enter, except_bind_at, occupy, except_bind_at]
  simp only [Action.publisher]
  rw [except_bind_at, attempt_open_run b es hopen, ha]
  cases hprevents : fault.preventsOpening with
  | true =>
    simp only [hprevents, if_true]
    exact ⟨_, _, rfl⟩
  | false =>
    simp only [hprevents, Bool.false_eq_true, if_false]
    exact ⟨_, _, rfl⟩

/-- The end of a batch with the given tally: closing the client may fail. -/
def Script.ending (script : Script) (tally : Tally) : Except Fault Tally :=
  match script.closeFault? with
  | some fault => .error fault
  | none => .ok tally

variable (a : Sender) (rs : List Request)

/-- Leaving closes the client, and a fault of that takes the place of the tally. -/
theorem leave_run (tally : Tally) :
    FanOut.leave publisher (.ok tally) (Relay.keeping b es (a.serving rs)) =
      (a.session.script.ending tally, Relay.keeping b es (a.served rs)) := by
  obtain ⟨-, -, hclosed, -⟩ := a.session_serving rs
  have hclose : ((a.serving rs).setSlot .empty).session.close 0 =
      (match a.session.script.closeFault? with
        | some fault => .error fault
        | none => .ok (), (a.served rs).session) := by
    rw [Session.close, show ((a.serving rs).setSlot .empty).session.closed = [] by
      rw [Sender.setSlot, Session.closed_note, hclosed]; rfl]
    show (match a.session.script.closeFault? with | some fault => _ | none => _) = _
    cases a.session.script.closeFault? <;> rfl
  have hleave : publisher.leave (Relay.keeping b es (a.serving rs)) =
      (match a.session.script.closeFault? with
        | some fault => .error fault
        | none => .ok (), Relay.keeping b es (a.served rs)) :=
    onSession_run (f := (·.close 0)) b es hclose
  show Action.andFinally (ExceptT.mk (pure (.ok tally))) publisher.leave
    (Relay.keeping b es (a.serving rs)) = _
  unfold Action.andFinally
  simp only [show ∀ r : Relay Sender, (ExceptT.mk (pure (.ok tally)) : Action Sender Tally) r =
    (.ok tally, r) from fun _ => rfl, hleave, Script.ending]
  cases a.session.script.closeFault? <;> rfl

/-- Beginning a send makes its request on the open client. -/
theorem begin_run {m : Message} {r : Request} (hr : m.request = .ok r) :
    let step := a.session.script.step rs.length
    publisher.begin m (Relay.keeping b es (a.serving rs)) =
      (.ok (step.yields, ⟨rs.length, m.destination, step, false⟩),
        Relay.keeping b es (a.serving (rs ++ [r]))) := by
  obtain ⟨-, -, -, hrequests⟩ := a.session_serving rs
  have hindex : (a.serving rs).session.requests.length = rs.length := by
    rw [hrequests, List.length_map]
  have hnote : (a.serving rs).session.note (.requested 0 r) =
      (a.serving (rs ++ [r])).session := by simp [Sender.serving, Session.note]
  intro step
  show ask m 0 false (Relay.keeping b es (a.serving rs)) = _
  rw [ask, hr]
  show (Except.ok (((a.serving rs).session.step (a.serving rs).session.requests.length).yields,
      (⟨(a.serving rs).session.requests.length, m.destination,
        (a.serving rs).session.step (a.serving rs).session.requests.length, false⟩ : Pending)),
    Relay.keeping b es { a.serving rs with
      session := (a.serving rs).session.note (.requested 0 r) }) = _
  rw [hindex, hnote]
  rfl

theorem deliver_of_fault {fault : Fault} (h : script.openFault? = some fault)
    (expected queues records : Value) :
    ∃ fault' es', FanOut.deliver publisher expected queues records
        (Relay.keeping b es (.new region endpointUrl script)) =
      (.clear (.error fault'),
        Relay.keeping b es' (Sender.new region endpointUrl script).refused) := by
  obtain ⟨fault', es', henter⟩ := enter_run_of_fault b es region endpointUrl h
  exact ⟨fault', es', FanOut.deliver_of_enter_fault expected henter records⟩

end StreamRelay.Sqs
