import StreamRelay.Proofs.Delivery

/-!
# Batches that abort

A batch is offered up to the first record that aborts, and what stands behind that record makes no
difference (`offering_of_abort`). The memory publisher is left at that point, before any send has
begun (`run_of_abort_at`). The sends for the records before it begin then, in order, with one turn
each: those that yield not at all settle (`index_endingAt`), and all others are given up, so that
none stays in flight (`inFlight_dropped`).
-/

namespace StreamRelay

open StreamRecord

namespace FanOut

variable {queues : Value} {qs : List Value} (hq : queues.members? = some qs) {expected raw : Value}
  (ha : aborts raw expected = true)

include hq ha

theorem offering_of_abort (after : List Value) : ∀ (before : List Value) (b : Context),
    offering queues expected b (before ++ raw :: after) =
      offering queues expected b (before ++ [raw])
  | [], b => by
    have hr := messages_result hq expected raw
    rw [if_pos ha] at hr
    simp only [List.nil_append, offering, hr]
  | earlier :: before, b => by
    simp only [List.cons_append, offering]
    cases (messages queues expected (ofValue earlier)).result with
    | error fault => rfl
    | ok ms => simp only [offering_of_abort after before]

variable {before : List Value} (hb : ∀ earlier ∈ before, aborts earlier expected = false)

include hb

/-- What is offered before the first record that aborts: the messages due for the records before. -/
theorem offering_until_abort (b : Context) :
    (offering queues expected b (before ++ [raw])).fault? = some .notAscii ∧
      (offering queues expected b (before ++ [raw])).messages.map Prod.snd =
        before.flatMap (due qs expected) := by
  have hcut : ((before ++ [raw]).takeWhile fun raw => !aborts raw expected) = before := by
    rw [List.takeWhile_append_of_pos fun earlier h => by rw [hb earlier h]; rfl]
    simp [ha]
  constructor
  · rw [fault?_offering hq, if_pos]
    simp [ha]
  · rw [messages_offering hq, hcut]

end FanOut

namespace Memory

open FanOut

/-! ### Sends that have one turn -/

/-- The send of a message with the given number yields not at all. -/
def Script.isPrompt (script : Script) (send : Message × Nat) : Bool :=
  (script.step send.1.destination send.2).yields = 0

theorem Job.index_endingAt (script : Script) : ∀ (ms : List (Context × Message)) (n : Nat),
    (endingAt (jobsFrom script n ms) 0).map index =
      (((ms.map Prod.snd).zipIdx n).filter script.isPrompt).map Prod.snd
  | [], _ => rfl
  | (c, m) :: ms, n => by
    have ih := Job.index_endingAt script ms (n + 1)
    rw [jobsFrom, endingAt_cons, List.map_append, ih, List.map_cons, List.zipIdx_cons,
      List.filter_cons]
    by_cases hy : (script.step m.destination n).yields = 0
    · simp [endingAt, Script.isPrompt, hy]
    · simp [endingAt, Script.isPrompt, hy]

theorem Store.inFlight_launchAll : ∀ (js : List Job) (s : Store),
    (s.launchAll js).inFlight = s.inFlight + js.countP (·.step.yields ≠ 0)
  | [], _ => rfl
  | j :: js, s => by
    have hj : (s.launch j).inFlight = s.inFlight + if j.step.yields ≠ 0 then 1 else 0 := by
      unfold launch
      by_cases hy : j.step.yields = 0
      · simp [hy, settle, push]
      · simp [hy, push]
    rw [show s.launchAll (j :: js) = (s.launch j).launchAll js from rfl, inFlight_launchAll js, hj,
      List.countP_cons]
    by_cases hy : j.step.yields = 0
    · simp [hy]
    · simp [hy]; omega

theorem Store.inFlight_dropAll : ∀ (js : List Job) (s : Store),
    (s.dropAll js).inFlight = s.inFlight - js.countP (·.step.yields ≠ 0)
  | [], _ => rfl
  | j :: js, s => by
    rw [show s.dropAll (j :: js) = (if j.step.yields = 0 then s else s.drop).dropAll js from rfl,
      inFlight_dropAll js, List.countP_cons]
    by_cases hy : j.step.yields = 0
    · simp [hy]
    · simp [hy, drop]; omega

theorem Store.inFlight_dropped (s : Store) (js : List Job) :
    ((s.launchAll js).dropAll js).inFlight = s.inFlight := by
  rw [inFlight_dropAll, inFlight_launchAll]
  omega

/-! ### Runs -/

section

variable (b : Context) (es : List Log.Entry) (s : Store) {expected queues records : Value}
  {qs : List Value} (hqs : queues.members? = some qs) (hopen : s.openFault? = none)

include hqs hopen

variable {before after : List Value} {raw : Value}
  (hraws : records.members? = some (before ++ raw :: after))
  (hb : ∀ earlier ∈ before, aborts earlier expected = false) (ha : aborts raw expected = true)

include hraws hb ha

/-- A run leaves the publisher at the first record that aborts, whatever leaving is; then the tasks
created before are drained. -/
theorem run_of_abort_at (leave : Action Store Unit) :
    FanOut.run (leaving leave) expected queues records (Relay.keeping b es s) =
      let o := offering queues expected b (before ++ [raw])
      let (result, r) := FanOut.leave (leaving leave) (.error .notAscii)
        (Relay.keeping o.bound (es ++ o.lines) s.enter)
      Ending.drain (leaving leave) ⟨result, o.messages.map fun cm => Task.create cm.1 cm.2, []⟩
        r := by
  have hfault := (offering_until_abort hqs ha hb b).1
  rw [FanOut.run, bind_at, deliver_run leave b es s expected queues hraws hopen,
    offering_of_abort hqs ha after before b]
  simp only [hfault, close]
  rfl

/-- The tasks that are drained begin their sends and settle those that yield not at all. -/
theorem run_of_abort_drained :
    let o := offering queues expected b (before ++ [raw])
    let js := jobsFrom s.script s.sent.length o.messages
    FanOut.run publisher expected queues records (Relay.keeping b es s) =
      (.error .notAscii, Relay.keeping o.bound (es ++ o.lines ++
        (Job.endingAt js 0).flatMap Job.lines) ((s.enter.leave.launchAll js).dropAll js)) := by
  intro o js
  have hrun := run_of_abort_at b es s hqs hopen hraws hb ha publisher.leave
  exact hrun.trans (drain_fresh o.bound (es ++ o.lines) s.enter.leave (.error .notAscii) o.messages)

end

/-- **A batch that aborts.** A run on a memory publisher that opens fails exactly if a record aborts.
If `raw` is the first that does, the fault is that of text outside ASCII, and all that is offered is
`raw` and the records before it. The publisher is left then, once, before any send has begun; after
that the sends for the records before `raw` begin, in order, those that yield not at all settle, in
order, and the others are given up without a line in the log. -/
theorem run_aborts_at_first {queues records expected : Value} {qs raws : List Value}
    {relay : Relay Store} (hlog : relay.log.Keeps) (hopen : relay.publisher.openFault? = none)
    (hqs : queues.members? = some qs) (hraws : records.members? = some raws) :
    ((∃ fault, (FanOut.run publisher expected queues records relay).1 = .error fault) ↔
      ∃ raw ∈ raws, aborts raw expected = true) ∧
    ∀ before raw after, raws = before ++ raw :: after →
      (∀ earlier ∈ before, aborts earlier expected = false) → aborts raw expected = true →
      let s := relay.publisher
      let sends := before.flatMap (due qs expected)
      let o := offering queues expected relay.log.bound (before ++ [raw])
      let offered := Relay.keeping o.bound (relay.log.entries ++ o.lines) s.enter
      let settled := Job.endingAt (jobsFrom s.script s.sent.length o.messages) 0
      o.messages.map Prod.snd = sends ∧
        (∀ leave, FanOut.run (leaving leave) expected queues records relay =
          let (result, r) := FanOut.leave (leaving leave) (.error .notAscii) offered
          Ending.drain (leaving leave)
            ⟨result, o.messages.map fun cm => Task.create cm.1 cm.2, []⟩ r) ∧
        ∃ t, s.enter.leave.Serving t sends
            (((sends.zipIdx s.sent.length).filter s.script.isPrompt).map Prod.snd) ∧
          t.inFlight = s.inFlight ∧
          FanOut.run publisher expected queues records relay = (.error .notAscii,
            Relay.keeping o.bound (offered.log.entries ++ settled.flatMap Job.lines) t) := by
  obtain ⟨b, es, s, rfl⟩ := Relay.exists_keeping hlog
  constructor
  · constructor
    · rintro ⟨fault, hfault⟩
      cases hany : raws.any fun raw => aborts raw expected with
      | true => simpa using hany
      | false =>
        have hab : ∀ raw ∈ raws, aborts raw expected = false := by simpa using hany
        rw [show FanOut.run publisher expected queues records (Relay.keeping b es s) = _ from
          run_of_no_abort publisher.leave b es s expected queues hraws hopen hqs hab] at hfault
        cases hfault
    · rintro ⟨raw, hraw, ha⟩
      -- of the records that abort, the first decides how the run ends
      obtain ⟨first, hfirst⟩ := Option.isSome_iff_exists.mp
        (List.find?_isSome.mpr ⟨raw, hraw, ha⟩ : (raws.find? (aborts · expected)).isSome = true)
      obtain ⟨ha, before, after, rfl, hb⟩ := List.find?_eq_some_iff_append.mp hfirst
      have hrun := run_of_abort_drained b es s hqs hopen hraws (by simpa using hb) ha
      exact ⟨.notAscii, by rw [hrun]⟩
  · rintro before raw after rfl hb ha s' sends o offered settled
    have hmessages : o.messages.map Prod.snd = sends := (offering_until_abort hqs ha hb b).2
    obtain ⟨js, hjs⟩ : ∃ js, js = jobsFrom s.script s.sent.length o.messages := ⟨_, rfl⟩
    have hserving := s.enter.leave.serving_dropped js
    rw [hjs, Job.message_jobsFrom, Job.index_endingAt, hmessages, ← hjs] at hserving
    refine ⟨hmessages, run_of_abort_at b es s hqs hopen hraws hb ha,
      (s.enter.leave.launchAll js).dropAll js, hserving, s.enter.leave.inFlight_dropped js, ?_⟩
    rw [hjs]
    exact run_of_abort_drained b es s hqs hopen hraws hb ha

/-- An accepted record for two queues, of which the first answers at once and the second never gets
to answer; a record with an old checksum outside ASCII; and one that would have been accepted. -/
theorem run_aborts_at_first_old_checksum :
    let accepted := sample "PHgvPg==" "AQ==" "Ag=="
    let raws := [accepted, sample "PHgvPg==" "AQ==" "é", accepted]
    let late : Step := ⟨1, none, .bool true, none, .null⟩
    let relay : Relay Store := ⟨Log.empty, .ofScript ⟨[], [("q2", late)], []⟩⟩
    (relay.log.Keeps ∧ relay.publisher.openFault? = none) ∧
      ∃ t : Store, t.entered = 1 ∧ t.exited = 1 ∧ t.sent.length = 2 ∧ t.settled = [0] ∧
        ∃ log, FanOut.run publisher (.text "aws:dynamodb") (.list [.text "q1", .text "q2"])
          (.tuple raws) relay = (.error .notAscii, ⟨log, t⟩) := by
  intro accepted raws late relay
  have hlog : relay.log.Keeps := Log.keeps_empty
  obtain ⟨-, hfirst⟩ := @run_aborts_at_first (.list [.text "q1", .text "q2"]) (.tuple raws)
    (.text "aws:dynamodb") [.text "q1", .text "q2"] raws relay hlog rfl rfl rfl
  obtain ⟨-, -, t, hserving, -, hrun⟩ := hfirst [accepted] _ [accepted] rfl (by decide) (by decide)
  refine ⟨⟨hlog, rfl⟩, t, hserving.entered, hserving.exited, ?_, hserving.settled, _, hrun⟩
  rw [hserving.sent]; rfl

end Memory

end StreamRelay
