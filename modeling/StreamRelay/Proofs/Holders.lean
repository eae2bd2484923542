import StreamRelay.Invocation
import StreamRelay.Proofs.Carrying
import StreamRelay.Proofs.Offering

/-!
# Holders of a publisher

A batch holds its publisher between entering and leaving it, and a send that waits may hold it too.
A publisher counts its holders if a state with `n` of them, `H n`, is taken by each operation to one
with as many as the operation leaves, and never has more than one (`Publisher.Counts`). Turns,
rounds and whole runs then keep the count, whatever the log refuses (`turn_counts`, `round_counts`,
`deliver_counts`), and an invocation that finds its publisher without a holder leaves it without one
(`serve_counts`).
-/

namespace StreamRelay

open Relay

variable {σ π α : Type}

/-- The operations of a publisher keep count of its holders, of which there is at most one: one that
entered and has not left, or a send that waits and owns what it uses. -/
structure Publisher.Counts (p : Publisher σ π) (H : Nat → σ → Prop) (owns : π → Nat) : Prop where
  enter : Carries (H 0) p.enter (Ends (fun _ => H 1) fun _ => H 0)
  leave (n : Nat) : Carries (H (n + 1)) p.leave fun _ => H n
  begin (n : Nat) (m : Message) :
    Carries (H n) (p.begin m) (Ends (fun answer => H (n + owns answer.2)) fun _ => H n)
  finish (n : Nat) (pending : π) : Carries (H (n + owns pending)) (p.finish pending) fun _ => H n
  abandon (n : Nat) (pending : π) : Carries (H (n + owns pending)) (p.abandon pending) fun _ => H n
  le_one (n : Nat) (s : σ) : H n s → n ≤ 1

/-! ### Holders among sends and tasks -/

/-- The number of times that a send holds its publisher. -/
def Send.holders (owns : π → Nat) : Send π → Nat
  | .waiting _ pending => owns pending
  | _ => 0

namespace Task

variable (owns : π → Nat)

def holders (t : Task π) : Nat :=
  match t.stage with
  | .sending send => send.holders owns
  | _ => 0

def holdersAmong : List (Task π) → Nat
  | [] => 0
  | t :: ts => t.holders owns + holdersAmong ts

@[simp] theorem holdersAmong_nil : holdersAmong owns ([] : List (Task π)) = 0 := rfl

@[simp] theorem holdersAmong_cons (t : Task π) (ts : List (Task π)) :
    holdersAmong owns (t :: ts) = t.holders owns + holdersAmong owns ts := rfl

@[simp] theorem holdersAmong_append (ts us : List (Task π)) :
    holdersAmong owns (ts ++ us) = holdersAmong owns ts + holdersAmong owns us := by
  induction ts with
  | nil => simp
  | cons t ts ih => rw [List.cons_append, holdersAmong_cons, holdersAmong_cons, ih, Nat.add_assoc]

theorem holdersAmong_create (bound : Context) (ms : List Message) :
    holdersAmong owns (ms.map (create bound) : List (Task π)) = 0 := by
  induction ms with
  | nil => rfl
  | cons m ms ih => rw [List.map_cons, holdersAmong_cons, ih]; rfl

theorem conclude_ended_counts {H : Nat → σ → Prop} (n : Nat) (t : Task π)
    (result : Except Fault Receipt) :
    Carries (H n) (t.conclude (.ended result)) fun t' s => t'.holders owns = 0 ∧ H n s := by
  refine (carries_onLog _).bind fun verdict => ?_
  cases verdict with
  | ok success => exact carries_pure _ fun _ hs => ⟨rfl, hs⟩
  | error fault => exact carries_pure _ fun _ hs => ⟨rfl, hs⟩

theorem conclude_counts {H : Nat → σ → Prop} (n : Nat) (t : Task π) (send : Send π) :
    Carries (H (n + send.holders owns)) (t.conclude send) fun t' => H (n + t'.holders owns) := by
  cases send with
  | fresh m => exact carries_pure _ fun _ => id
  | waiting left pending => exact carries_pure _ fun _ => id
  | ended result =>
    refine (conclude_ended_counts owns n t result).post fun t' s ⟨h, hs⟩ => ?_
    rwa [h]

end Task

theorem FanOut.holdersAmong_offer (owns : π → Nat) (queues expected raw : Value) {log log' : Log}
    {ts : List (Task π)} (h : offer queues expected raw log = (.ok ts, log')) :
    Task.holdersAmong owns ts = 0 := by
  obtain ⟨ms, names, -, rfl⟩ := offer_eq_ok h
  exact Task.holdersAmong_create owns names ms

theorem FanOut.holdersAmong_offerAll (owns : π → Nat) (queues expected : Value) :
    ∀ (raws : List Value) (log : Log),
      Task.holdersAmong owns (offerAll (π := π) queues expected raws log).1.1 = 0
  | [], _ => rfl
  | raw :: raws, log => by
    rw [offerAll, bind_at]
    rcases ho : (offer (π := π) queues expected raw).run log with ⟨fault | ts, log'⟩
    · rfl
    · show Task.holdersAmong owns (ts ++ (offerAll (π := π) queues expected raws log').1.1) = 0
      rw [Task.holdersAmong_append, holdersAmong_offer owns queues expected raw ho,
        holdersAmong_offerAll owns queues expected raws log']

/-! ### Turns and rounds -/

namespace Publisher.Counts

variable {p : Publisher σ π} {H : Nat → σ → Prop} {owns : π → Nat} (hp : p.Counts H owns)

include hp

theorem send_turn_counts (n : Nat) (send : Send π) :
    Carries (H (n + send.holders owns)) (send.turn p) fun send' => H (n + send'.holders owns) := by
  have hfinish : ∀ pending, Carries (H (n + owns pending)) (Send.finish p pending) fun send' =>
      H (n + send'.holders owns) := fun pending =>
    (hp.finish n pending).bind fun _ => carries_pure _ fun _ => id
  cases send with
  | fresh m =>
    refine (hp.begin n m).bind fun result => ?_
    rcases result with fault | ⟨_ | left, pending⟩
    · exact carries_pure _ fun _ => id
    · exact hfinish pending
    · exact carries_pure _ fun _ => id
  | waiting left pending =>
    cases left with
    | zero => exact hfinish pending
    | succ left => exact carries_pure _ fun _ => id
  | ended result => exact carries_pure _ fun _ => id

/-- A turn keeps the count: a task holds the publisher more or less often by as much as the publisher
has more or fewer holders. -/
theorem turn_counts (n : Nat) (t : Task π) :
    Carries (H (n + t.holders owns)) (t.turn p) fun t' => H (n + t'.holders owns) := by
  unfold Task.turn Task.holders
  cases hs : t.stage with
  | sending send =>
    exact ((hp.send_turn_counts n send).bind fun send' =>
      t.conclude_counts owns n send').under t.bound
  | counted success => exact carries_pure _ fun s hs' => by simpa [hs] using hs'
  | broken fault => exact carries_pure _ fun s hs' => by simpa [hs] using hs'

theorem round_counts : ∀ (ts : List (Task π)) (n : Nat),
    Carries (H (n + Task.holdersAmong owns ts)) (Task.round p ts) fun ts' =>
      H (n + Task.holdersAmong owns ts')
  | [], n => carries_pure _ fun _ => id
  | t :: ts, n => by
    have ht := (hp.turn_counts (n + Task.holdersAmong owns ts) t).pre
      (P := H (n + Task.holdersAmong owns (t :: ts))) fun s hs => by
        rwa [Task.holdersAmong_cons, Nat.add_comm (t.holders owns), ← Nat.add_assoc] at hs
    refine ht.bind fun t' => ?_
    have hts := (round_counts ts (n + t'.holders owns)).pre
      (P := H (n + Task.holdersAmong owns ts + t'.holders owns)) fun s hs => by
        rwa [Nat.add_right_comm] at hs
    exact hts.bind fun ts' => carries_pure _ fun s hs => by
      rwa [Task.holdersAmong_cons, ← Nat.add_assoc]

theorem rounds_counts (n : Nat) : ∀ (m : Nat) (ts : List (Task π)),
    Carries (H (n + Task.holdersAmong owns ts)) (Task.rounds p m ts) fun ts' =>
      H (n + Task.holdersAmong owns ts')
  | 0, ts => carries_pure _ fun _ => id
  | m + 1, ts => by
    rw [Task.rounds]
    split
    · exact carries_pure _ fun _ => id
    · exact (hp.round_counts ts n).bind fun ts' => rounds_counts n m ts'

theorem settle_counts (n : Nat) (ts : List (Task π)) :
    Carries (H (n + Task.holdersAmong owns ts)) (Task.settle p ts) fun ts' =>
      H (n + Task.holdersAmong owns ts') :=
  (hp.round_counts ts n).bind fun begun => hp.rounds_counts n _ begun

/-! ### What is given up -/

theorem cancel_counts (n : Nat) (t : Task π) :
    Carries (H (n + t.holders owns)) (t.cancel p) fun _ => H n := by
  unfold Task.cancel Task.holders
  cases hs : t.stage with
  | counted success => exact carries_pure _ fun _ => id
  | broken fault => exact carries_pure _ fun _ => id
  | sending send =>
    cases send with
    | fresh m => exact carries_pure _ fun _ => id
    | ended result => exact carries_pure _ fun _ => id
    | waiting left pending =>
      refine Carries.under ((hp.abandon n pending).bind fun result => ?_) t.bound
      cases result with
      | ok u => exact carries_pure _ fun _ => id
      | error fault =>
        refine (Task.conclude_ended_counts owns n t (.error fault)).bind fun _ => ?_
        exact carries_pure _ fun _ hs => hs.2

theorem cancelAll_counts (n : Nat) : ∀ ts : List (Task π),
    Carries (H (n + Task.holdersAmong owns ts)) (Task.cancelAll p ts) fun _ => H n
  | [] => carries_pure _ fun _ => id
  | t :: ts => by
    have ht := (hp.cancel_counts (n + Task.holdersAmong owns ts) t).pre
      (P := H (n + Task.holdersAmong owns (t :: ts))) fun s hs => by
        rwa [Task.holdersAmong_cons, Nat.add_comm (t.holders owns), ← Nat.add_assoc] at hs
    exact ht.bind fun _ => cancelAll_counts n ts

theorem drain_counts (e : Ending π α) :
    Carries (H (Task.holdersAmong owns (e.before ++ e.after))) (e.drain p) fun _ => H 0 := by
  have hafter := (hp.round_counts e.after (Task.holdersAmong owns e.before)).pre
    (P := H (Task.holdersAmong owns (e.before ++ e.after))) fun s hs => by
      rwa [Task.holdersAmong_append] at hs
  refine hafter.bind fun after => ?_
  have hall := (hp.round_counts (e.before ++ after) 0).pre
    (P := H (Task.holdersAmong owns e.before + Task.holdersAmong owns after)) fun s hs => by
      rwa [Task.holdersAmong_append, Nat.zero_add]
  exact hall.bind fun ts => (hp.cancelAll_counts 0 ts).bind fun _ => carries_pure _ fun _ => id

/-! ### Runs -/

theorem leave_counts (n : Nat) (result : Except Fault α) :
    Carries (H (n + 1)) (FanOut.leave p result) fun _ => H n :=
  Carries.andFinally (x := ExceptT.mk (pure result)) (fun _ => id) (hp.leave n)

/-- The tasks that are left over hold the publisher as often as it has holders. -/
theorem await_counts (ts : List (Task π)) :
    Carries (H (1 + Task.holdersAmong owns ts)) (FanOut.await p ts) fun e =>
      H (Task.holdersAmong owns (e.before ++ e.after)) := by
  refine (hp.settle_counts 1 ts).bind fun settled => ?_
  split
  · -- the batch is the one holder, so no send that waits is left
    have hleave := (hp.leave_counts (Task.holdersAmong owns settled) (.ok (Task.tally settled))).pre
      (P := H (1 + Task.holdersAmong owns settled)) fun s hs => by rwa [Nat.add_comm] at hs
    refine Carries.bind (R := fun _ => H 0) (fun r hr => ?_) fun _ => carries_pure _ fun _ => id
    have hnone : Task.holdersAmong owns settled = 0 := by
      have := hp.le_one _ _ hr
      omega
    rw [← hnone]
    exact hleave r hr
  · rename_i fault _
    refine (hp.round_counts settled 1).bind fun ts => ?_
    obtain ⟨place, hplace⟩ : ∃ place, place = settled.findIdx fun t => t.fault?.isSome := ⟨_, rfl⟩
    rw [← hplace]
    have hsplit : Task.holdersAmong owns ts =
        Task.holdersAmong owns (ts.take place) + Task.holdersAmong owns (ts.drop place) := by
      rw [← Task.holdersAmong_append, List.take_append_drop]
    have hbefore := (hp.round_counts (ts.take place)
      (1 + Task.holdersAmong owns (ts.drop place))).pre
        (P := H (1 + Task.holdersAmong owns ts)) fun s hs => by
          rwa [hsplit, Nat.add_comm (Task.holdersAmong owns (ts.take place)), ← Nat.add_assoc] at hs
    refine hbefore.bind fun before => ?_
    have hleave := (hp.leave_counts (α := Tally) (Task.holdersAmong owns (before ++ ts.drop place))
      (.error fault)).pre (P := H (1 + Task.holdersAmong owns (ts.drop place) +
        Task.holdersAmong owns before)) fun s hs => by
          rw [Task.holdersAmong_append]
          rwa [Nat.add_assoc, Nat.add_comm 1,
            Nat.add_comm (Task.holdersAmong owns (ts.drop place))] at hs
    exact hleave.bind fun _ => carries_pure _ fun _ => id

theorem close_counts (ts : List (Task π)) (hts : Task.holdersAmong owns ts = 0)
    (fault? : Option Fault) :
    Carries (H 1) (FanOut.close p ts fault?) fun e =>
      H (Task.holdersAmong owns (e.before ++ e.after)) := by
  cases fault? with
  | none => exact (hp.await_counts ts).pre fun s hs => by rwa [hts]
  | some fault =>
    exact (hp.leave_counts 0 (.error fault)).bind fun _ => carries_pure _ fun s hs => by
      rwa [List.append_nil, hts]

theorem deliver_counts (expected queues records : Value) :
    Carries (H 0) (FanOut.deliver p expected queues records) fun e =>
      H (Task.holdersAmong owns (e.before ++ e.after)) := by
  refine hp.enter.bind fun result => ?_
  cases result with
  | error fault => exact carries_pure _ fun _ => id
  | ok u =>
    cases hitems : records.items? with
    | none =>
      exact (hp.leave_counts 0 _).bind fun _ => carries_pure _ fun _ => id
    | some raws =>
      have hoffer : Carries (H 1) (onLog (FanOut.offerAll queues expected raws)) fun offered s =>
          Task.holdersAmong owns offered.1 = 0 ∧ H 1 s := fun r hr =>
        ⟨FanOut.holdersAmong_offerAll owns queues expected raws r.log, hr⟩
      refine hoffer.bind fun ⟨ts, fault?⟩ => fun r hr => ?_
      exact hp.close_counts ts hr.1 fault? r hr.2

theorem run_counts (expected arg : Value) :
    Carries (H 0) (Invocation.run p expected arg) fun _ => H 0 := by
  have hanswer : Carries (H 0) (Invocation.answer p expected arg) fun e =>
      H (Task.holdersAmong owns (e.before ++ e.after)) := by
    refine (carries_onLog _).bind fun checked => ?_
    rcases checked with fault | outcome | batch
    · exact carries_pure _ fun _ => id
    · exact carries_pure _ fun _ => id
    · refine (hp.deliver_counts expected batch.queues batch.records).bind fun e => ?_
      exact (carries_onLog _).bind fun _ => carries_pure _ fun _ => id
  exact hanswer.bind fun e => hp.drain_counts e

/-- **Every invocation gives its publisher back.** One that finds it without a holder leaves it
without one, however it ends. -/
theorem serve_counts (expected : Value) (context : Context) (arg : Value) :
    Carries (H 0) (Invocation.serve p expected context arg) fun _ => H 0 := by
  refine Carries.binding (Carries.bind_action (hp.run_counts expected arg).ends fun outcome => ?_) _
  exact Carries.bind_action (carries_ofLogged _).ends fun _ => carries_pure _ fun _ => id

end Publisher.Counts

end StreamRelay
