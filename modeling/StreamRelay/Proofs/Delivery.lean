import StreamRelay.Proofs.Offering
import StreamRelay.Proofs.Schedule

/-!
# Delivery on the memory publisher

How a batch ends on a memory publisher whose opening has no fault. Where no record aborts, all sends
have settled when the publisher is left (`deliver_of_no_abort`, `serving_settled`), which is all that
there is to its run (`run_of_no_abort`): each message due is sent once and counted once
(`run_exactly_once`). Where a record aborts, the publisher is left before any send has begun
(`deliver_of_abort`), and the sends for the records before begin without it (`drain_fresh`).
-/

namespace StreamRelay.Memory

open StreamRecord FanOut

/-! ### Entering -/

variable (leave : Action Store Unit) (b : Context) (es : List Log.Entry) (s : Store)

def Store.openFault? (s : Store) : Option Fault := (s.script.opens[s.entered]?).join

theorem enter_run : (leaving leave).enter.run (Relay.keeping b es s) =
    (match s.openFault? with
      | some fault => .error fault
      | none => .ok (), Relay.keeping b es s.enter) := by
  have hrun : (leaving leave).enter.run (Relay.keeping b es s) =
      (match s.openFault? with
        | some fault => (throw fault : Action Store Unit)
        | none => pure ()) (Relay.keeping b es s.enter) := rfl
  rw [hrun]
  cases s.openFault? <;> rfl

/-! ### Runs -/

theorem leave_run {α : Type} (result : Except Fault α) :
    FanOut.leave (leaving publisher.leave) result (Relay.keeping b es s) =
      (result, Relay.keeping b es s.leave) := rfl

theorem await_run (ms : List (Context × Message)) :
    FanOut.await (leaving leave) (ms.map fun cm => Task.create cm.1 cm.2) (Relay.keeping b es s) =
      let js := jobsFrom s.script s.sent.length ms
      let (result, r) := FanOut.leave (leaving leave)
        (.ok (s.script.tally s.sent.length (ms.map Prod.snd)))
        (Relay.keeping b (es ++ (Job.schedule js).flatMap Job.lines) (s.served js))
      (.clear result, r) := by
  have hnone : ((jobsFrom s.script s.sent.length ms).map fun j =>
      j.task (.counted j.succeeds)).findSome? Task.fault? = none := by
    rw [List.findSome?_eq_none_iff]
    intro t ht
    obtain ⟨j, -, rfl⟩ := List.mem_map.mp ht
    rfl
  rw [← Job.fresh_jobsFrom s.script ms s.sent.length, FanOut.await, bind_at,
    settle_jobs leave b es s rfl]
  simp only [hnone, tally_jobsFrom]
  rfl

variable (expected queues records : Value)

theorem deliver_of_fault {fault : Fault} (h : s.openFault? = some fault) :
    deliver (leaving leave) expected queues records (Relay.keeping b es s) =
      (.clear (.error fault), Relay.keeping b es s.enter) := by
  refine deliver_of_enter_fault expected ?_ records
  rw [enter_run, h]

variable {records} {raws : List Value} (hraws : records.members? = some raws)
  (hopen : s.openFault? = none)

include hraws hopen

theorem deliver_run :
    deliver (leaving leave) expected queues records (Relay.keeping b es s) =
      let o := offering queues expected b raws
      close (leaving leave) (o.messages.map fun cm => Task.create cm.1 cm.2) o.fault?
        (Relay.keeping o.bound (es ++ o.lines) s.enter) := by
  refine deliver_of_enter expected hraws ?_
  rw [enter_run, hopen]

/-- The relay of a batch whose sends have all settled, before its publisher is left. -/
def settled (queues expected : Value) (raws : List Value) (b : Context) (es : List Log.Entry)
    (s : Store) : Relay Store :=
  let o := offering queues expected b raws
  let js := jobsFrom s.script s.sent.length o.messages
  Relay.keeping o.bound (es ++ o.lines ++ (Job.schedule js).flatMap Job.lines) (s.enter.served js)

section

variable {qs : List Value} (hqs : queues.members? = some qs)
  (hab : ∀ raw ∈ raws, aborts raw expected = false)

include hqs hab

/-- **A delivery in which no record aborts** leaves the publisher after all sends have settled, with
the tally of the messages due for the records. -/
theorem deliver_of_no_abort :
    deliver (leaving leave) expected queues records (Relay.keeping b es s) =
      let (result, r) := FanOut.leave (leaving leave)
        (.ok (s.script.tally s.sent.length (raws.flatMap (due qs expected))))
        (settled queues expected raws b es s)
      (.clear result, r) := by
  obtain ⟨hnone, hsends⟩ := offering_of_no_abort hqs expected hab b
  rw [deliver_run leave b es s expected queues hraws hopen]
  simp only [hnone, close]
  rw [await_run, hsends]
  rfl

theorem run_of_no_abort :
    FanOut.run (leaving leave) expected queues records (Relay.keeping b es s) =
      FanOut.leave (leaving leave)
        (.ok (s.script.tally s.sent.length (raws.flatMap (due qs expected))))
        (settled queues expected raws b es s) := by
  rw [FanOut.run, bind_at, deliver_of_no_abort leave b es s expected queues hraws hopen hqs hab]
  rfl

omit hraws hopen

/-- The messages due for the records are what was sent, and their sends have settled as they were
scheduled. -/
theorem serving_settled :
    let js := jobsFrom s.script s.sent.length (offering queues expected b raws).messages
    s.enter.Serving (settled queues expected raws b es s).publisher
      (raws.flatMap (due qs expected)) ((Job.schedule js).map Job.index) := by
  intro js
  have hserving := s.enter.serving_served js
  rwa [Job.message_jobsFrom, (offering_of_no_abort hqs expected hab b).2] at hserving

end

/-- A delivery in which a record aborts leaves the publisher before any send begins. -/
theorem deliver_of_abort {fault : Fault}
    (hsome : (offering queues expected b raws).fault? = some fault) :
    deliver publisher expected queues records (Relay.keeping b es s) =
      let o := offering queues expected b raws
      (⟨.error fault, o.messages.map fun cm => Task.create cm.1 cm.2, []⟩,
        Relay.keeping o.bound (es ++ o.lines) s.enter.leave) := by
  rw [show publisher = leaving publisher.leave from rfl,
    deliver_run publisher.leave b es s expected queues hraws hopen]
  simp only [hsome, close]
  rfl

omit hraws hopen

/-- New tasks that are left over begin; those that have not ended a turn later are given up. -/
theorem drain_fresh {α : Type} (result : Except Fault α) (ms : List (Context × Message)) :
    Ending.drain publisher ⟨result, ms.map fun cm => Task.create cm.1 cm.2, []⟩
        (Relay.keeping b es s) =
      let js := jobsFrom s.script s.sent.length ms
      (result, Relay.keeping b (es ++ (Job.endingAt js 0).flatMap Job.lines)
        ((s.launchAll js).dropAll js)) := by
  rw [← Job.fresh_jobsFrom s.script ms s.sent.length,
    show publisher = leaving publisher.leave from rfl, Ending.drain]
  simp only [Task.round, pure_bind, List.append_nil]
  rw [bind_at, round_fresh publisher.leave b ms es s _ rfl, bind_at, cancelAll_after]
  rfl

/-! ### Exactly once -/

theorem Script.tally_due (script : Script) (n : Nat) (qs : List Value) (expected : Value)
    (raws : List Value) :
    (script.tally n (raws.flatMap (due qs expected))).successes +
      (script.tally n (raws.flatMap (due qs expected))).failures =
        raws.countP (accepts expected) * qs.length := by
  rw [tally_total, length_flatMap_due]
  exact Int.natCast_mul ..

/-- **Exactly once.** A run in which no decision fails enters the publisher once and begins one send
for each accepted record and queue, in order, and no other. When it leaves the publisher, which it
does once whatever leaving is, each of these sends has settled once; it returns their tally. -/
theorem run_exactly_once {queues records expected : Value} {qs raws : List Value}
    {relay : Relay Store} (hlog : relay.log.Keeps) (hopen : relay.publisher.openFault? = none)
    (hqs : queues.members? = some qs) (hraws : records.members? = some raws)
    (hdec : ∀ raw ∈ raws, ∃ d, ((ofValue raw).decision expected).result = .ok d) :
    let s := relay.publisher
    let sends := raws.flatMap (due qs expected)
    let tally := s.script.tally s.sent.length sends
    (∀ raw image, ((ofValue raw).decision expected).result = .ok (.accepted image) →
        (image.messagesTo qs).result = .ok (due qs expected raw) ∧
          (due qs expected raw).map Message.destination = qs) ∧
      (∀ raw reason, ((ofValue raw).decision expected).result = .ok (.skipped reason) →
        due qs expected raw = []) ∧
      tally.successes + tally.failures = raws.countP (accepts expected) * qs.length ∧
      ∃ (before : Relay Store) (order : List Nat),
        s.enter.Serving before.publisher sends order ∧
        order.Perm (List.range' s.sent.length sends.length) ∧
        (∀ leave, FanOut.run (leaving leave) expected queues records relay =
          FanOut.leave (leaving leave) (.ok tally) before) ∧
        FanOut.run publisher expected queues records relay =
          (.ok tally, { before with publisher := before.publisher.leave }) := by
  intro s sends tally
  have hab := forall_decides_iff.mp hdec
  have hserving := serving_settled relay.log.bound relay.log.entries s expected queues hqs hab
  have hrun := fun leave => run_of_no_abort leave relay.log.bound relay.log.entries s expected
    queues hraws hopen hqs hab
  have hlength : (offering queues expected relay.log.bound raws).messages.length = sends.length := by
    have hsends := (offering_of_no_abort hqs expected hab relay.log.bound).2
    simpa only [List.length_map] using congrArg List.length hsends
  have horder := (Job.schedule_perm (jobsFrom s.script s.sent.length
    (offering queues expected relay.log.bound raws).messages)).map Job.index
  rw [Job.index_jobsFrom, hlength] at horder
  rw [Relay.eq_keeping hlog]
  exact ⟨fun raw image h => ⟨due_of_accepted h qs, destination_due h qs⟩,
    fun raw reason h => due_of_skipped h qs, s.script.tally_due _ qs expected raws,
    _, _, hserving, horder, hrun, hrun publisher.leave⟩

/-- An accepted record and a skipped one for two queues, of which the first answers later and the
second raises. -/
theorem run_exactly_once_late_and_raising :
    let raws := [sample "PHgvPg==" "AQ==" "Ag==", sample "PHgvPg==" "AQ==" "AQ=="]
    let qs : List Value := [.text "q1", .text "q2"]
    let late : Step := ⟨2, none, .int 1, none, .null⟩
    let raising : Step := ⟨0, some (.timeout "late"), .null, none, .null⟩
    let script : Script := ⟨[], [("q1", late), ("q2", raising)], []⟩
    let relay : Relay Store := ⟨Log.empty, .ofScript script⟩
    (relay.log.Keeps ∧ relay.publisher.openFault? = none ∧
      ∀ raw ∈ raws, ∃ d, ((ofValue raw).decision (.text "aws:dynamodb")).result = .ok d) ∧
    ∃ (before : Relay Store) (order : List Nat),
      order.Perm [0, 1] ∧ before.publisher.settled = order ∧
      FanOut.run publisher (.text "aws:dynamodb") (.tuple qs) (.list raws) relay =
        (.ok ⟨1, 1⟩, { before with publisher := before.publisher.leave }) := by
  intro raws qs late raising script relay
  have hab : ∀ raw ∈ raws, aborts raw (.text "aws:dynamodb") = false := by decide
  have hdec : ∀ raw ∈ raws, ∃ d,
      ((ofValue raw).decision (.text "aws:dynamodb")).result = .ok d := forall_decides_iff.mpr hab
  obtain ⟨-, -, -, before, order, hserving, horder, -, hrun⟩ :=
    run_exactly_once (show relay.log.Keeps from Log.keeps_empty) rfl
      (show (Value.tuple qs).members? = some qs from rfl)
      (show (Value.list raws).members? = some raws from rfl) hdec
  refine ⟨⟨Log.keeps_empty, rfl, hdec⟩, before, order, ?_, ?_, ?_⟩
  · exact horder
  · exact hserving.settled
  · exact hrun

end StreamRelay.Memory
