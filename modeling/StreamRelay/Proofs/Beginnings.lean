import StreamRelay.Proofs.Carrying
import StreamRelay.Proofs.Gates
import StreamRelay.Proofs.Writers

/-!
# The sends that begin

A publisher keeps an account of its sends if a state that accounts for messages `ms`, `G ms`, is
taken by the beginning of one more send to one that accounts for its message too, and by every other
operation to one that accounts for the same (`Publisher.Accounts`). Each task begins its send in its
first turn and never again (`turn_accounts`), so a round accounts for the tasks that had none before,
in order (`round_accounts`), and a whole invocation for messages that are due, each once and in
order, whatever the log refuses (`serve_accounts`).
-/

namespace StreamRelay

open Relay

variable {σ π α : Type}

/-- The operations of a publisher keep account of the sends that were begun, in order. -/
structure Publisher.Accounts (p : Publisher σ π) (G : List Message → σ → Prop) : Prop where
  enter (ms : List Message) : Carries (G ms) p.enter fun _ => G ms
  leave (ms : List Message) : Carries (G ms) p.leave fun _ => G ms
  begin (ms : List Message) (m : Message) : Carries (G ms) (p.begin m) fun _ => G (ms ++ [m])
  finish (ms : List Message) (pending : π) : Carries (G ms) (p.finish pending) fun _ => G ms
  abandon (ms : List Message) (pending : π) : Carries (G ms) (p.abandon pending) fun _ => G ms

/-! ### Messages not yet sent -/

/-- The message of a send that has not begun. -/
def Send.unsent? : Send π → Option Message
  | .fresh m => some m
  | _ => none

namespace Task

def unsent? (t : Task π) : Option Message :=
  match t.stage with
  | .sending send => send.unsent?
  | _ => none

def unsent (ts : List (Task π)) : List Message := ts.filterMap unsent?

@[simp] theorem unsent_nil : unsent ([] : List (Task π)) = [] := rfl

theorem unsent_cons (t : Task π) (ts : List (Task π)) :
    unsent (t :: ts) = t.unsent?.toList ++ unsent ts := by
  unfold unsent
  rw [List.filterMap_cons]
  cases t.unsent? <;> rfl

@[simp] theorem unsent_append (ts us : List (Task π)) :
    unsent (ts ++ us) = unsent ts ++ unsent us := List.filterMap_append

theorem unsent_create (bound : Context) (ms : List Message) :
    unsent (ms.map (create bound) : List (Task π)) = ms := by
  unfold unsent
  rw [List.filterMap_map]
  exact List.filterMap_some

theorem unsent_of_subset {ts us : List (Task π)} (h : unsent ts = []) (hus : us ⊆ ts) :
    unsent us = [] :=
  List.filterMap_eq_nil_iff.mpr fun t ht => List.filterMap_eq_nil_iff.mp h t (hus ht)

theorem conclude_carries {P : σ → Prop} (t : Task π) (send : Send π) (h : send.unsent? = none) :
    Carries P (t.conclude send) fun t' s => t'.unsent? = none ∧ P s := by
  cases send with
  | fresh m => cases h
  | waiting left pending => exact carries_pure _ fun _ hs => ⟨rfl, hs⟩
  | ended result =>
    refine (carries_onLog _).bind fun verdict => ?_
    cases verdict with
    | ok success => exact carries_pure _ fun _ hs => ⟨rfl, hs⟩
    | error fault => exact carries_pure _ fun _ hs => ⟨rfl, hs⟩

end Task

/-! ### Messages on offer -/

namespace FanOut

open StreamRecord

/-- The messages due for records, up to the first that aborts. -/
def dueUpTo (qs : List Value) (expected : Value) (raws : List Value) : List Message :=
  (raws.takeWhile fun raw => !aborts raw expected).flatMap (due qs expected)

variable {queues expected : Value} {qs : List Value} (hq : queues.members? = some qs)

include hq

/-- A record that is offered does not abort, and its tasks have the messages due for it. -/
theorem unsent_offer {raw : Value} {log log' : Log} {ts : List (Task π)}
    (h : offer queues expected raw log = (.ok ts, log')) :
    aborts raw expected = false ∧ Task.unsent ts = due qs expected raw := by
  obtain ⟨ms, names, hm, rfl⟩ := offer_eq_ok h
  have hresult : (messages queues expected (ofValue raw)).result = .ok ms :=
    (messages_core queues expected (ofValue raw)).agrees hm fun _ => rfl
  rw [messages_result hq] at hresult
  cases ha : aborts raw expected with
  | true =>
    rw [ha] at hresult
    cases hresult
  | false =>
    rw [ha] at hresult
    obtain rfl := Except.ok.inj hresult
    exact ⟨rfl, Task.unsent_create _ _⟩

/-- The tasks that are offered have the messages due, as far as the log lets them be offered. -/
theorem unsent_offerAll_upTo : ∀ (raws : List Value) (log : Log),
    Task.unsent (offerAll (π := π) queues expected raws log).1.1 <+: dueUpTo qs expected raws
  | [], _ => List.prefix_refl _
  | raw :: raws, log => by
    rw [offerAll, bind_at]
    rcases ho : (offer (π := π) queues expected raw).run log with ⟨fault | ts, log'⟩
    · exact List.nil_prefix
    · obtain ⟨ha, hts⟩ := unsent_offer hq ho
      show Task.unsent (ts ++ (offerAll (π := π) queues expected raws log').1.1) <+: _
      rw [Task.unsent_append, hts, dueUpTo, List.takeWhile_cons_of_pos (by rw [ha]; rfl),
        List.flatMap_cons]
      exact (List.prefix_append_right_inj _).mpr (unsent_offerAll_upTo raws log')

theorem unsent_offerAll (raws : List Value) {log : Log} (hlog : log.Keeps) :
    Task.unsent (offerAll (π := π) queues expected raws log).1.1 = dueUpTo qs expected raws := by
  rw [hlog.eq_keeping, offerAll_run]
  show Task.unsent ((offering queues expected log.bound raws).messages.map _) = _
  unfold Task.unsent dueUpTo
  rw [List.filterMap_map, ← messages_offering hq expected raws log.bound]
  exact congrFun List.filterMap_eq_map _

end FanOut

namespace Invocation

/-! ### Arguments -/

/-- The batch of an argument that passes the gates. -/
def batchOf (arg : Value) : Batch :=
  ⟨Value.getD "queues" (arg.entries?.getD []),
    Gate.batch (Value.getD "event" (arg.entries?.getD []))⟩

theorem behind_eq_ok {next : Logged (Except Outcome α)} {gate : Logged (Option Outcome)} {log : Log}
    {a : α} (h : ((gate >>= behind next) log).1 = .ok (.ok a)) :
    ∃ log', (next log').1 = .ok (.ok a) := by
  rw [except_bind_at] at h
  rcases hgate : gate log with ⟨fault | _ | outcome, log'⟩
  · rw [hgate] at h; cases h
  · rw [hgate] at h; exact ⟨log', h⟩
  · rw [hgate] at h; cases h

/-- What passes the gates, on whatever log, is the batch of the argument. -/
theorem check_eq_ok {arg : Value} {log : Log} {batch : Batch}
    (h : (check arg log).1 = .ok (.ok batch)) : batch = batchOf arg := by
  obtain ⟨log', h⟩ := behind_eq_ok h
  obtain ⟨log'', h⟩ := behind_eq_ok h
  exact (Except.ok.inj (Except.ok.inj h)).symm

theorem stop?_of_check_ok {arg : Value} {log : Log} {batch : Batch}
    (h : (check arg log).1 = .ok (.ok batch)) : stop? arg = none := by
  obtain ⟨-, message, queues, records, hresult, -, -⟩ := check_run arg
  have hbatch := (check_core arg).agrees h Log.keeps_empty
  rw [show (check arg Log.empty).1 = _ from hresult] at hbatch
  cases hstop : stop? arg with
  | none => rfl
  | some status =>
    rw [hstop] at hbatch
    simp only [] at hbatch
    cases hended : Gate.ended (refused? arg) status message with
    | ok outcome => rw [hended] at hbatch; cases hbatch
    | error fault => rw [hended] at hbatch; cases hbatch

theorem check_keeping {arg : Value} (hpass : stop? arg = none) {log : Log} (hlog : log.Keeps) :
    (∃ batch, (check arg log).1 = .ok (.ok batch)) ∧ (check arg log).2.Keeps := by
  obtain ⟨hsteady, message, queues, records, hresult, -, -⟩ := check_run arg
  rw [hpass] at hresult
  refine ⟨⟨_, (hsteady.fst_eq hlog).trans hresult⟩, ?_⟩
  obtain ⟨es, hes, -⟩ := (check_core arg).adds log
  rw [hes]
  exact hlog

/-- The relay on which an invocation runs, with the identifier of the request bound. -/
def started (context : Context) (r : Relay σ) : Relay σ :=
  { r with log := { r.log with bound := r.log.bound.bind [("correlation_id", requestId context)] } }

/-- What the relay comes to when the end of a run is announced: an outcome is, a fault is not. -/
def announced : Except Fault Outcome × Relay σ → Relay σ
  | (.ok outcome, r) => (onLog (announce outcome).run r).2
  | (.error _, r) => r

/-- Serving a caller runs the invocation under the identifier of the request, announces its outcome
and takes the identifier back, on every log. -/
theorem serve_relay (p : Publisher σ π) (expected : Value) (context : Context) (arg : Value)
    (r : Relay σ) :
    let r' := announced (run p expected arg (started context r))
    (serve p expected context arg r).2 = { r' with log := { r'.log with
      bound := r'.log.bound.unbind [("correlation_id", requestId context)] r.log.bound } } := by
  unfold serve Action.binding
  rw [except_bind_at, show (ExceptT.mk (run p expected arg) : Action σ Outcome) { r with log :=
    { r.log with bound := r.log.bound.bind [("correlation_id", requestId context)] } } =
      run p expected arg (started context r) from rfl]
  rcases run p expected arg (started context r) with ⟨fault | outcome, r'⟩
  · rfl
  · simp only []
    rw [except_bind_at, show (liftM (announce outcome) : Action σ Unit) r' =
      onLog (announce outcome).run r' from rfl]
    rw [announced]
    rcases onLog (announce outcome).run r' with ⟨_ | _, r''⟩ <;> rfl

theorem serve_publisher (p : Publisher σ π) (expected : Value) (context : Context) (arg : Value)
    (r : Relay σ) : (serve p expected context arg r).2.publisher =
      (run p expected arg (started context r)).2.publisher := by
  rw [serve_relay]
  rcases run p expected arg (started context r) with ⟨fault | outcome, r'⟩ <;> rfl

end Invocation

/-! ### Turns and rounds -/

namespace Publisher.Accounts

variable {p : Publisher σ π} {G : List Message → σ → Prop} (hp : p.Accounts G)

include hp

theorem send_turn_accounts (ms : List Message) (send : Send π) :
    Carries (G ms) (send.turn p) fun send' s =>
      send'.unsent? = none ∧ G (ms ++ send.unsent?.toList) s := by
  have hfinish : ∀ ms pending, Carries (G ms) (Send.finish p pending) fun send' s =>
      send'.unsent? = none ∧ G ms s := fun ms pending =>
    (hp.finish ms pending).bind fun _ => carries_pure _ fun _ hs => ⟨rfl, hs⟩
  have hnone : ms ++ (none : Option Message).toList = ms := List.append_nil ms
  cases send with
  | fresh m =>
    refine (hp.begin ms m).bind fun result => ?_
    rcases result with fault | ⟨_ | left, pending⟩
    · exact carries_pure _ fun _ hs => ⟨rfl, hs⟩
    · exact hfinish (ms ++ [m]) pending
    · exact carries_pure _ fun _ hs => ⟨rfl, hs⟩
  | waiting left pending =>
    simp only [Send.unsent?, hnone]
    cases left with
    | zero => exact hfinish ms pending
    | succ left => exact carries_pure _ fun _ hs => ⟨rfl, hs⟩
  | ended result =>
    simp only [Send.unsent?, hnone]
    exact carries_pure _ fun _ hs => ⟨rfl, hs⟩

/-- A turn accounts for the send of the task, if it begins in it. -/
theorem turn_accounts (ms : List Message) (t : Task π) :
    Carries (G ms) (t.turn p) fun t' s => t'.unsent? = none ∧ G (ms ++ t.unsent?.toList) s := by
  unfold Task.turn
  cases hs : t.stage with
  | sending send =>
    rw [show t.unsent? = send.unsent? by rw [Task.unsent?, hs]]
    exact ((hp.send_turn_accounts ms send).bind fun send' =>
      carries_of_and fun hsend' => t.conclude_carries _ hsend').under t.bound
  | _ =>
    have hnone : t.unsent? = none := by rw [Task.unsent?, hs]
    rw [hnone]
    exact carries_pure _ fun s hs' => ⟨hnone, by simpa using hs'⟩

/-- A round accounts for the sends that begin in it, in order. -/
theorem round_accounts : ∀ (ts : List (Task π)) (ms : List Message),
    Carries (G ms) (Task.round p ts) fun ts' s => Task.unsent ts' = [] ∧ G (ms ++ Task.unsent ts) s
  | [], ms => carries_pure _ fun s hs => ⟨rfl, by simpa using hs⟩
  | t :: ts, ms => by
    refine (hp.turn_accounts ms t).bind fun t' => carries_of_and fun ht' => ?_
    refine (round_accounts ts (ms ++ t.unsent?.toList)).bind fun ts' => carries_pure _ ?_
    rintro s ⟨hts', hs⟩
    rw [Task.unsent_cons, Task.unsent_cons, ht', hts', ← List.append_assoc]
    exact ⟨rfl, hs⟩

theorem later_round_accounts {ts : List (Task π)} (h : Task.unsent ts = []) (ms : List Message) :
    Carries (G ms) (Task.round p ts) fun ts' s => Task.unsent ts' = [] ∧ G ms s :=
  (hp.round_accounts ts ms).post fun ts' s hs => by rwa [h, List.append_nil] at hs

theorem rounds_accounts (ms : List Message) : ∀ (n : Nat) {ts : List (Task π)},
    Task.unsent ts = [] →
    Carries (G ms) (Task.rounds p n ts) fun ts' s => Task.unsent ts' = [] ∧ G ms s
  | 0, ts, h => carries_pure _ fun _ hs => ⟨h, hs⟩
  | n + 1, ts, h => by
    rw [Task.rounds]
    split
    · exact carries_pure _ fun _ hs => ⟨h, hs⟩
    · exact (hp.later_round_accounts h ms).bind fun ts' =>
        carries_of_and fun hts' => rounds_accounts ms n hts'

theorem settle_accounts (ms : List Message) (ts : List (Task π)) :
    Carries (G ms) (Task.settle p ts) fun ts' s =>
      Task.unsent ts' = [] ∧ G (ms ++ Task.unsent ts) s :=
  (hp.round_accounts ts ms).bind fun begun =>
    carries_of_and fun hbegun => hp.rounds_accounts _ (Task.longest begun) hbegun

theorem cancel_accounts (ms : List Message) (t : Task π) :
    Carries (G ms) (t.cancel p) fun _ => G ms := by
  unfold Task.cancel
  split
  · rename_i left pending _
    refine ((hp.abandon ms pending).bind fun result => ?_).under t.bound
    cases result with
    | ok u => exact carries_pure _ fun _ => id
    | error fault =>
      exact (t.conclude_carries (.ended (.error fault)) rfl).bind fun _ =>
        carries_pure _ fun _ hs => hs.2
  · exact carries_pure _ fun _ => id

theorem cancelAll_accounts (ms : List Message) : ∀ ts : List (Task π),
    Carries (G ms) (Task.cancelAll p ts) fun _ => G ms
  | [] => carries_pure _ fun _ => id
  | t :: ts => (hp.cancel_accounts ms t).bind fun _ => cancelAll_accounts ms ts

/-! ### Deliveries -/

theorem leave_accounts (ms : List Message) (result : Except Fault α) :
    Carries (G ms) (FanOut.leave p result) fun _ => G ms :=
  Carries.andFinally (x := ExceptT.mk (pure result)) (fun _ => id) (hp.leave ms)

/-- At the end of a delivery of `ms`, what has not begun is left over for the drain, in order. -/
def Owing (G : List Message → σ → Prop) (ms : List Message) (e : Ending π α) (s : σ) : Prop :=
  ∃ begun, begun ++ Task.unsent e.before = ms ∧ Task.unsent e.after = [] ∧ G begun s

omit hp in
theorem owing_clear {ms : List Message} {s : σ} (h : G ms s) (result : Except Fault α) :
    Owing (π := π) G ms (.clear result) s := ⟨ms, List.append_nil _, rfl, h⟩

theorem await_accounts (ms : List Message) (ts : List (Task π)) :
    Carries (G ms) (FanOut.await p ts) (Owing G (ms ++ Task.unsent ts)) := by
  refine (hp.settle_accounts ms ts).bind fun settled => carries_of_and fun hsettled => ?_
  split
  · exact (hp.leave_accounts _ _).bind fun _ => carries_pure _ fun _ hs => owing_clear hs _
  · rename_i fault _
    -- The first round began all sends, so the rounds after a fault account for nothing.
    refine (hp.later_round_accounts hsettled _).bind fun late => carries_of_and fun hlate => ?_
    have htake := Task.unsent_of_subset hlate
      (List.take_subset (settled.findIdx fun t => t.fault?.isSome) late)
    have hdrop := Task.unsent_of_subset hlate
      (List.drop_subset (settled.findIdx fun t => t.fault?.isSome) late)
    refine (hp.later_round_accounts htake _).bind fun before => carries_of_and fun hbefore => ?_
    exact (hp.leave_accounts _ _).bind fun _ => carries_pure _ fun s hs =>
      ⟨_, by rw [hbefore, List.append_nil], hdrop, hs⟩

theorem close_accounts (ms : List Message) (ts : List (Task π)) (fault? : Option Fault) :
    Carries (G ms) (FanOut.close p ts fault?) (Owing G (ms ++ Task.unsent ts)) := by
  cases fault? with
  | none => exact hp.await_accounts ms ts
  | some fault =>
    exact (hp.leave_accounts ms _).bind fun _ => carries_pure _ fun s hs => ⟨ms, rfl, rfl, hs⟩

theorem drain_accounts (ms : List Message) (e : Ending π α) :
    Carries (Owing G ms e) (e.drain p) fun _ => G ms := by
  rintro r ⟨begun, rfl, hafter, hG⟩
  have hdrain : Carries (G begun) (e.drain p) fun _ => G (begun ++ Task.unsent e.before) := by
    refine (hp.later_round_accounts hafter begun).bind fun after => carries_of_and fun hafter' => ?_
    have hround := hp.round_accounts (e.before ++ after) begun
    rw [Task.unsent_append, hafter', List.append_nil] at hround
    exact hround.bind fun ts => carries_of_and fun _ =>
      (hp.cancelAll_accounts _ ts).bind fun _ => carries_pure _ fun _ => id
  exact hdrain r hG

variable (expected : Value) {queues records : Value} {qs raws : List Value}
  (hq : queues.members? = some qs) (hraws : records.members? = some raws)

include hq hraws

/-- A delivery accounts for messages that are due, and leaves over what has not begun. All that are
due are accounted for if the publisher is entered and the log keeps its entries. -/
theorem deliver_accounts (r : Relay σ) (h : G [] r.publisher) :
    ∃ ms, ms <+: FanOut.dueUpTo qs expected raws ∧
      Owing G ms (FanOut.deliver p expected queues records r).1
        (FanOut.deliver p expected queues records r).2.publisher ∧
      ((p.enter r).1 = .ok () → (p.enter r).2.log.Keeps →
        ms = FanOut.dueUpTo qs expected raws) := by
  have henter := hp.enter [] r h
  rw [FanOut.deliver, bind_at, Value.items?_of_members? hraws]
  rcases hr : p.enter.run r with ⟨fault | u, r'⟩
  · rw [show p.enter r = (.error fault, r') from hr] at henter ⊢
    exact ⟨[], List.nil_prefix, owing_clear henter _, fun hok => by cases hok⟩
  · rw [show p.enter r = (.ok u, r') from hr] at henter ⊢
    refine ⟨_, FanOut.unsent_offerAll_upTo (π := π) hq raws r'.log, ?_, fun _ hkeeps =>
      FanOut.unsent_offerAll hq raws hkeeps⟩
    exact hp.close_accounts [] _ _ (onLog (FanOut.offerAll queues expected raws) r').2 henter

omit hq hraws

/-! ### Invocations -/

open Invocation

variable {arg : Value} (hqs : queuesAt arg = some qs) (hbatch : batchAt arg = some raws)
  (hpass : stop? arg = none)

include hqs hbatch hpass

theorem run_accounts (r : Relay σ) (h : G [] r.publisher) :
    ∃ ms, ms <+: FanOut.dueUpTo qs expected raws ∧ G ms (run p expected arg r).2.publisher ∧
      (r.log.Keeps → (∀ r' : Relay σ, r'.log.Keeps → G [] r'.publisher →
          (p.enter r').1 = .ok () ∧ (p.enter r').2.log.Keeps) →
        ms = FanOut.dueUpTo qs expected raws) := by
  obtain ⟨ms, hms, howing, hall⟩ : ∃ ms, ms <+: FanOut.dueUpTo qs expected raws ∧
      Owing G ms (answer p expected arg r).1 (answer p expected arg r).2.publisher ∧
      (r.log.Keeps → (∀ r' : Relay σ, r'.log.Keeps → G [] r'.publisher →
          (p.enter r').1 = .ok () ∧ (p.enter r').2.log.Keeps) →
        ms = FanOut.dueUpTo qs expected raws) := by
    rw [answer, bind_at]
    rcases hcheck : check arg r.log with ⟨checked, log⟩
    rw [show onLog (check arg).run r = (checked, { r with log }) by
      show ((check arg r.log).1, ({ r with log := (check arg r.log).2 } : Relay σ)) = _
      rw [hcheck]]
    have hkeeps (hlog : r.log.Keeps) := check_keeping hpass hlog
    rw [hcheck] at hkeeps
    rcases checked with fault | outcome | batch
    · exact ⟨[], List.nil_prefix, owing_clear h _, fun hlog _ => nomatch (hkeeps hlog).1⟩
    · exact ⟨[], List.nil_prefix, owing_clear h _, fun hlog _ => nomatch (hkeeps hlog).1⟩
    · obtain rfl := check_eq_ok (congrArg Prod.fst hcheck)
      obtain ⟨ms, hms, howing, hall⟩ := hp.deliver_accounts expected
        ((members?_queues arg).trans hqs) ((members?_batch_event arg).trans hbatch)
        ⟨log, r.publisher⟩ h
      refine ⟨ms, hms, howing, fun hlog henter => ?_⟩
      obtain ⟨hok, hlog'⟩ := henter ⟨log, r.publisher⟩ (hkeeps hlog).2 h
      exact hall hok hlog'
  exact ⟨ms, hms, hp.drain_accounts ms _ _ howing, hall⟩

/-- **What an invocation begins.** An invocation whose argument passes the gates accounts for messages
that are due, in order, each once. It accounts for all of them on a log that keeps its entries, if
the publisher can be entered. -/
theorem serve_accounts (context : Context) (r : Relay σ) (h : G [] r.publisher) :
    ∃ ms, ms <+: FanOut.dueUpTo qs expected raws ∧
      G ms (serve p expected context arg r).2.publisher ∧
      (r.log.Keeps → (∀ r' : Relay σ, r'.log.Keeps → G [] r'.publisher →
          (p.enter r').1 = .ok () ∧ (p.enter r').2.log.Keeps) →
        ms = FanOut.dueUpTo qs expected raws) := by
  rw [serve_publisher]
  exact hp.run_accounts expected hqs hbatch hpass (started context r) h

end Publisher.Accounts

end StreamRelay
