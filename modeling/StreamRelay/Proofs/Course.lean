import StreamRelay.Proofs.Beginnings
import StreamRelay.Proofs.Naming

/-!
# The course of an invocation

An invocation goes in steps: it checks its argument, enters the publisher, offers records one by one,
gives turns to tasks in any order, gives tasks up, leaves the publisher, and reports. A step for a
record, its offering or a turn of one of its tasks, writes its lines for that record, and any other
step writes them for none (`Moment.Step`). Each step writes under the names of the request, and of the
record if there is one (`Step.sound`), so in every course of steps, however turns of tasks for
different records come to follow each other, each line has the names of the record it was written for
(`Course.sound`).
-/

namespace StreamRelay

open Relay FanOut

variable {σ π α β : Type}

/-- A moment of an invocation: the relay, the records still to be offered, and the tasks, each with
the record it was created for. -/
structure Moment (σ π : Type) where
  relay : Relay σ
  toOffer : List Value
  tasks : List (Value × Task π)

/-- The tasks that come of the offering of a record, with that record. -/
def FanOut.tasksFor (raw : Value) : Except Fault (List (Task π)) → List (Value × Task π)
  | .ok ts => ts.map (raw, ·)
  | .error _ => []

namespace Moment

/-- One step of an invocation, and the record for which it is made. -/
inductive Step (p : Publisher σ π) (queues expected : Value) :
    Option Value → Moment σ π → Moment σ π → Prop where
  | check (arg : Value) (m : Moment σ π) :
    Step p queues expected none m { m with relay := (onLog (Invocation.check arg).run m.relay).2 }
  | enter (m : Moment σ π) : Step p queues expected none m { m with relay := (p.enter m.relay).2 }
  | offer (relay : Relay σ) (raw : Value) (raws : List Value) (tasks : List (Value × Task π)) :
    Step p queues expected (some raw) ⟨relay, raw :: raws, tasks⟩
      ⟨(onLog (offer (π := π) queues expected raw).run relay).2, raws,
        tasks ++ tasksFor raw (onLog (offer queues expected raw).run relay).1⟩
  | turn (relay : Relay σ) (toOffer : List Value) (before after : List (Value × Task π))
      (raw : Value) (t : Task π) :
    Step p queues expected (some raw) ⟨relay, toOffer, before ++ (raw, t) :: after⟩
      ⟨(t.turn p relay).2, toOffer, before ++ (raw, (t.turn p relay).1) :: after⟩
  | cancel (m : Moment σ π) (raw : Value) (t : Task π) (h : (raw, t) ∈ m.tasks) :
    Step p queues expected (some raw) m { m with relay := (t.cancel p m.relay).2 }
  | leave (m : Moment σ π) : Step p queues expected none m { m with relay := (p.leave m.relay).2 }
  | report (records : Nat) (result : Except Fault Tally) (m : Moment σ π) :
    Step p queues expected none m
      { m with relay := (onLog (Invocation.report records result).run m.relay).2 }
  | announce (outcome : Outcome) (m : Moment σ π) :
    Step p queues expected none m
      { m with relay := (onLog (Invocation.announce outcome).run m.relay).2 }

def linesSince (m m' : Moment σ π) : List Log.Entry :=
  m'.relay.log.entries.drop m.relay.log.entries.length

/-- Steps that follow each other, with the lines they write, each with the record it is for. -/
inductive Course (p : Publisher σ π) (queues expected : Value) :
    Moment σ π → List (Option Value × Log.Entry) → Moment σ π → Prop where
  | done (m : Moment σ π) : Course p queues expected m [] m
  | step {who : Option Value} {m m' m'' : Moment σ π} {ls : List (Option Value × Log.Entry)}
    (hstep : Step p queues expected who m m') (hrest : Course p queues expected m' ls m'') :
    Course p queues expected m ((linesSince m m').map (who, ·) ++ ls) m''

/-! ### The names of lines -/

/-- The names bound for a record, or for none, in an invocation under the names `b`. -/
def namesOf (b : Context) : Option Value → Context
  | none => b
  | some raw => namesFor b raw

/-- The names `b` are bound, and each task has those of its record. -/
structure Sound (b : Context) (m : Moment σ π) : Prop where
  bound : m.relay.log.bound = b
  tasks : ∀ rt ∈ m.tasks, rt.2.bound = namesFor b rt.1

end Moment

/-- Names that no record has, so that those of a record can be bound and taken back. -/
def Context.Apart (b : Context) : Prop := ∀ raw, b.without (StreamRecord.ofValue raw).context = b

/-- A record is offered under its own names, which its tasks keep, whatever the log refuses. -/
theorem FanOut.offer_grows (queues expected raw : Value) (log : Log) (hb : log.bound.Apart) :
    Grows (namesFor log.bound raw) log (offer (π := π) queues expected raw log).2 ∧
      ∀ rt ∈ tasksFor raw (offer (π := π) queues expected raw log).1,
        rt.2.bound = namesFor log.bound rt.1 := by
  obtain ⟨es, hes, hunder⟩ := (messages_core queues expected (StreamRecord.ofValue raw)).adds
    { log with bound := namesFor log.bound raw }
  have hback : (namesFor log.bound raw).unbind (StreamRecord.ofValue raw).context log.bound =
      log.bound := Context.unbind_bind (hb raw)
  unfold offer Logged.binding
  rw [except_bind_at]
  rcases hm : messages queues expected (StreamRecord.ofValue raw)
    { log with bound := namesFor log.bound raw } with ⟨result, log'⟩
  rw [hm] at hes
  -- The log after the record is evaluated still has the record's names; `hback` takes them back.
  obtain rfl : log' = { log with
    bound := namesFor log.bound raw, entries := log.entries ++ es } := hes
  rw [show messages queues expected (StreamRecord.ofValue raw)
    { log with bound := log.bound.bind (StreamRecord.ofValue raw).context } = _ from hm]
  have hgrows : Grows (namesFor log.bound raw) log { log with
      bound := (namesFor log.bound raw).unbind (StreamRecord.ofValue raw).context log.bound
      entries := log.entries ++ es } :=
    ⟨es, by rw [hback], fun e he => (hunder e he).2⟩
  cases result with
  | error fault => exact ⟨hgrows, fun _ hrt => by cases hrt⟩
  | ok ms =>
    refine ⟨hgrows, fun rt hrt => ?_⟩
    obtain ⟨t, ht, rfl⟩ := List.mem_map.mp hrt
    obtain ⟨m, -, rfl⟩ := List.mem_map.mp ht
    rfl

/-! ### Turns -/

namespace Task

/-- A task keeps its names. -/
theorem bound_conclude (t : Task π) (send : Send π) (r : Relay σ) :
    (t.conclude send r).1.bound = t.bound := by
  cases send with
  | ended result =>
    simp only [conclude]
    rw [bind_at]
    cases (onLog (report t.destination result).run r).1 <;> rfl
  | _ => rfl

theorem bound_turn (p : Publisher σ π) (t : Task π) (r : Relay σ) :
    (t.turn p r).1.bound = t.bound := by
  unfold turn
  cases t.stage with
  | sending send => exact t.bound_conclude _ _
  | _ => rfl

theorem conclude_adds (t : Task π) (send : Send π) :
    Adds (t.conclude send : StateM (Relay σ) (Task π)) := by
  cases send with
  | ended result =>
    refine (adds_onLog (report_core t.destination result)).bind fun verdict => ?_
    cases verdict <;> exact adds_pure _
  | _ => exact adds_pure _

end Task

section

variable {p : Publisher σ π} (hp : p.Adds)

include hp

theorem Send.turn_adds (send : Send π) : Adds (send.turn p) := by
  have hfinish (pending : π) : Adds (Send.finish p pending) :=
    (hp.finish pending).bind fun _ => adds_pure _
  cases send with
  | fresh m =>
    refine (hp.begin m).bind fun result => ?_
    rcases result with fault | ⟨_ | left, pending⟩
    · exact adds_pure _
    · exact hfinish pending
    · exact adds_pure _
  | waiting left pending =>
    cases left with
    | zero => exact hfinish pending
    | succ left => exact adds_pure _
  | ended result => exact adds_pure _

theorem Task.turn_grows (t : Task π) (r : Relay σ) : Grows t.bound r.log (t.turn p r).2.log := by
  unfold Task.turn
  cases t.stage with
  | sending send =>
    exact ((Send.turn_adds hp send).bind fun send' => t.conclude_adds send').under t.bound r
  | _ => exact grows_refl _ r.log

theorem Task.cancel_grows (t : Task π) (r : Relay σ) :
    Grows t.bound r.log (t.cancel p r).2.log := by
  unfold Task.cancel
  cases t.stage with
  | sending send =>
    cases send with
    | waiting left pending =>
      refine Adds.under ((hp.abandon pending).bind fun result => ?_) t.bound r
      cases result with
      | ok u => exact adds_pure _
      | error fault => exact (t.conclude_adds _).bind fun _ => adds_pure _
    | _ => exact grows_refl _ r.log
  | _ => exact grows_refl _ r.log

/-! ### Steps and courses -/

namespace Moment

variable {queues expected : Value} {b : Context} {m m' : Moment σ π}

omit hp in
theorem Sound.of_adds {x : StateM (Relay σ) α} (hx : Adds x) (hm : m.Sound b) :
    Sound b { m with relay := (x m.relay).2 } ∧
      Grows b m.relay.log (x m.relay).2.log := by
  have hgrows := hx m.relay
  rw [hm.bound] at hgrows
  exact ⟨⟨hgrows.bound_eq.trans hm.bound, hm.tasks⟩, hgrows⟩

/-- **A step writes under the names of its record**, or of the request alone. -/
theorem Step.sound (hb : b.Apart) {who : Option Value} (h : Step p queues expected who m m')
    (hm : m.Sound b) : m'.Sound b ∧ Grows (namesOf b who) m.relay.log m'.relay.log := by
  cases h with
  | check arg => exact hm.of_adds (adds_onLog (Invocation.check_core arg))
  | enter => exact hm.of_adds hp.enter
  | leave => exact hm.of_adds hp.leave
  | report records result => exact hm.of_adds (adds_onLog (Invocation.report_core records result))
  | announce outcome => exact hm.of_adds (adds_onLog (Invocation.announce_core outcome))
  | offer relay raw raws tasks =>
    have hbound : relay.log.bound = b := hm.bound
    obtain ⟨hgrows, hnew⟩ := offer_grows (π := π) queues expected raw relay.log
      (by rwa [hbound])
    rw [hbound] at hgrows hnew
    refine ⟨⟨hgrows.bound_eq.trans hbound, fun rt hrt => ?_⟩, hgrows⟩
    exact (List.mem_append.mp hrt).elim (hm.tasks rt) (hnew rt)
  | turn relay toOffer before after raw t =>
    have hgrows := t.turn_grows hp relay
    have htask : t.bound = namesFor b raw := hm.tasks (raw, t) (by simp)
    rw [htask] at hgrows
    refine ⟨⟨hgrows.bound_eq.trans hm.bound, fun rt hrt => ?_⟩, hgrows⟩
    obtain hrt | hrt := List.mem_append.mp hrt
    · exact hm.tasks rt (List.mem_append_left _ hrt)
    · obtain rfl | hrt := List.mem_cons.mp hrt
      · exact (t.bound_turn p relay).trans htask
      · exact hm.tasks rt (List.mem_append_right _ (List.mem_cons_of_mem _ hrt))
  | cancel _ raw t hmem =>
    have hgrows := t.cancel_grows hp m.relay
    have htask : t.bound = namesFor b raw := hm.tasks (raw, t) hmem
    rw [htask] at hgrows
    exact ⟨⟨hgrows.bound_eq.trans hm.bound, hm.tasks⟩, hgrows⟩

/-- **In every course each line has the names of the record it is written for**, or of the request
alone, and nothing else is written. -/
theorem Course.sound (hb : b.Apart) {ls : List (Option Value × Log.Entry)}
    (h : Course p queues expected m ls m') (hm : m.Sound b) :
    m'.Sound b ∧ m'.relay.log.entries = m.relay.log.entries ++ ls.map Prod.snd ∧
      ∀ l ∈ ls, Log.Entry.Under (namesOf b l.1) l.2 := by
  induction h with
  | done m => exact ⟨hm, by simp, fun l hl => by cases hl⟩
  | @step who m m' m'' ls hstep hrest ih =>
    obtain ⟨hm', es, hes, hunder⟩ := hstep.sound hp hb hm
    obtain ⟨hm'', hentries, hlines⟩ := ih hm'
    have hsince : linesSince m m' = es := by
      rw [linesSince, hes]
      exact List.drop_left
    rw [hsince]
    refine ⟨hm'', ?_, fun l hl => ?_⟩
    · rw [hentries, hes, List.map_append, List.map_map, List.append_assoc]
      congr 1
      simp [Function.comp_def]
    · obtain hl | hl := List.mem_append.mp hl
      · obtain ⟨e, he, rfl⟩ := List.mem_map.mp hl
        exact hunder e he
      · exact hlines l hl

end Moment

end

end StreamRelay
