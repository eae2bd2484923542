import StreamRelay.Proofs.Aborting

/-!
# The timing of a batch

On the memory publisher all sends of a batch begin in the first round, in order, before any that
yields has its next turn (`run_in_rounds`); they settle sorted by their yields and, among equals, in
the order in which they began (`Job.schedule_pairwise`); and if each yields, all are in flight
together (`Store.le_maxInFlight_launchAll`). The yields make no other difference: a script that
differs in them alone has the same steps otherwise (`Script.step_untimed`), so the same tally, and
what is sent does not depend on it at all (`run_schedule`).
-/

namespace StreamRelay.Memory

open StreamRecord FanOut

/-! ### The order of settling -/

/-- The turns that the send of a message with the given number waits. -/
def Script.yields (script : Script) (send : Message × Nat) : Nat :=
  (script.step send.1.destination send.2).yields

/-- A send settles before another: it waits for fewer turns, or for as many and began earlier. -/
def Script.Sooner (script : Script) (x y : Message × Nat) : Prop :=
  script.yields x < script.yields y ∨ script.yields x = script.yields y ∧ x.2 < y.2

namespace Job

def send (j : Job) : Message × Nat := (j.message, j.index)

theorem send_jobsFrom (script : Script) : ∀ (ms : List (Context × Message)) (n : Nat),
    (jobsFrom script n ms).map send = (ms.map Prod.snd).zipIdx n
  | [], _ => rfl
  | (c, m) :: ms, n => by
    rw [jobsFrom, List.map_cons, send_jobsFrom script ms, List.map_cons, List.zipIdx_cons]; rfl

theorem step_of_mem_jobsFrom {script : Script} : ∀ {ms : List (Context × Message)} {n : Nat}
    {j : Job}, j ∈ jobsFrom script n ms → j.step = script.step j.message.destination j.index
  | (c, m) :: ms, n, j, h => by
    obtain rfl | h := List.mem_cons.mp h
    · rfl
    · exact step_of_mem_jobsFrom h

theorem yields_of_mem_jobsFrom {script : Script} {ms : List (Context × Message)} {n : Nat} {j : Job}
    (h : j ∈ jobsFrom script n ms) : j.step.yields = script.yields j.send :=
  congrArg Step.yields (step_of_mem_jobsFrom h)

/-- The schedule is sorted by yields, and by numbers where these are equal. -/
theorem schedule_pairwise {js : List Job} (h : js.Pairwise fun i j => i.index < j.index) :
    (schedule js).Pairwise fun i j =>
      i.step.yields < j.step.yields ∨ i.step.yields = j.step.yields ∧ i.index < j.index := by
  have hyields {j : Job} {n : Nat} (hj : j ∈ endingAt js n) : j.step.yields = n := by
    simpa using (List.mem_filter.mp hj).2
  rw [schedule, List.pairwise_flatMap]
  constructor
  · intro n _
    refine (h.filter _).imp_of_mem fun hi hj hij => .inr ⟨?_, hij⟩
    rw [hyields hi, hyields hj]
  · refine List.pairwise_lt_range.imp fun hmn i hi j hj => .inl ?_
    rwa [hyields hi, hyields hj]

theorem pairwise_index_jobsFrom (script : Script) (n : Nat) (ms : List (Context × Message)) :
    (jobsFrom script n ms).Pairwise fun i j => i.index < j.index := by
  have h := List.pairwise_lt_range' (s := n) (n := ms.length)
  rw [← index_jobsFrom script ms n] at h
  exact List.pairwise_map.mp h

theorem sends_schedule (script : Script) (n : Nat) (ms : List (Context × Message)) :
    let order := (schedule (jobsFrom script n ms)).map send
    order.Perm ((ms.map Prod.snd).zipIdx n) ∧ order.Pairwise script.Sooner := by
  intro order
  constructor
  · rw [← send_jobsFrom script]
    exact (schedule_perm _).map send
  · rw [List.pairwise_map]
    refine (schedule_pairwise (pairwise_index_jobsFrom script n ms)).imp_of_mem ?_
    intro i j hi hj hij
    have hi := yields_of_mem_jobsFrom ((schedule_perm _).mem_iff.mp hi)
    have hj := yields_of_mem_jobsFrom ((schedule_perm _).mem_iff.mp hj)
    rw [hi, hj] at hij
    exact hij

end Job

/-! ### Sends in flight -/

namespace Store

/-- Sends that all yield are in flight together once they have begun. -/
theorem le_maxInFlight_launchAll : ∀ (js : List Job) (s : Store),
    (∀ j ∈ js, j.step.yields ≠ 0) → js ≠ [] →
    s.inFlight + js.length ≤ (s.launchAll js).maxInFlight
  | [], _, _, h => absurd rfl h
  | j :: js, s, hyield, _ => by
    obtain ⟨hj, hjs⟩ := List.forall_mem_cons.mp hyield
    have hlaunch : s.launch j = s.push j.message := by rw [launch, if_neg hj]
    have hpush : s.inFlight + 1 ≤ (s.launch j).maxInFlight := by
      rw [hlaunch]; exact Nat.le_max_right ..
    have hcount : (s.launch j).inFlight = s.inFlight + 1 := by rw [hlaunch]; rfl
    show _ ≤ ((s.launch j).launchAll js).maxInFlight
    cases js with
    | nil => exact hpush
    | cons k ks =>
      have ih := le_maxInFlight_launchAll (k :: ks) (s.launch j) hjs (List.cons_ne_nil k ks)
      rw [hcount] at ih
      simp only [List.length_cons] at ih ⊢
      omega

theorem maxInFlight_settleAll : ∀ (js : List Job) (s : Store),
    (s.settleAll js).maxInFlight = s.maxInFlight
  | [], _ => rfl
  | j :: js, s => maxInFlight_settleAll js (s.settle j.index)

theorem inFlight_launchAll_of_waits (s : Store) {js : List Job}
    (h : ∀ j ∈ js, j.step.yields ≠ 0) : (s.launchAll js).inFlight = s.inFlight + js.length := by
  rw [inFlight_launchAll, List.countP_eq_length.mpr fun j hj => by simpa using h j hj]

theorem length_le_maxInFlight_served (s : Store) {js : List Job}
    (h : ∀ j ∈ js, j.step.yields ≠ 0) : js.length ≤ (s.served js).maxInFlight := by
  cases js with
  | nil => exact Nat.zero_le _
  | cons j js =>
    have hall := le_maxInFlight_launchAll (j :: js) s h (List.cons_ne_nil j js)
    rw [served, maxInFlight_settleAll]
    omega

end Store

/-! ### Scripts that differ in their yields -/

def Step.untimed (step : Step) : Step := { step with yields := 0 }

def Script.untimed (script : Script) : Script where
  opens := script.opens
  queues := script.queues.map fun q => (q.1, q.2.untimed)
  sends := script.sends.map (Option.map Step.untimed)

namespace Script

variable (script : Script)

theorem step_untimed (destination : Value) (i : Nat) :
    script.untimed.step destination i = (script.step destination i).untimed := by
  have hqueue : script.untimed.queue? destination =
      (script.queue? destination).map Step.untimed := by
    cases destination with
    | text name =>
      simp only [queue?, untimed, List.find?_map, Option.map_map]
      rfl
    | _ => rfl
  have hsend : ((script.untimed.sends[i]?).join).getD .plain =
      (((script.sends[i]?).join).getD .plain).untimed := by
    simp only [untimed, List.getElem?_map]
    rcases script.sends[i]? with _ | _ | step <;> rfl
  unfold step
  rw [hqueue, hsend]
  cases script.queue? destination <;> rfl

theorem tally_untimed (n : Nat) (ms : List Message) :
    script.untimed.tally n ms = script.tally n ms := by
  have hsucceeds : script.untimed.succeeds = script.succeeds := by
    funext send
    simp only [succeeds, step_untimed]
    rfl
  simp only [tally, hsucceeds]

theorem tally_of_untimed {script script' : Script} (h : script.untimed = script'.untimed) (n : Nat)
    (ms : List Message) : script.tally n ms = script'.tally n ms := by
  rw [← tally_untimed, h, tally_untimed]

end Script

/-! ### Runs -/

section

variable (b : Context) (es : List Log.Entry) (s : Store)

/-- New tasks in their rounds: the first begins all sends, the others end those that yield. -/
theorem settle_in_rounds (ms : List (Context × Message)) :
    let js := jobsFrom s.script s.sent.length ms
    let mid := Relay.keeping b (es ++ (Job.endingAt js 0).flatMap Job.lines) (s.launchAll js)
    let begun := js.map (Job.after 0)
    Task.round publisher (ms.map fun cm => Task.create cm.1 cm.2) (Relay.keeping b es s) =
        (begun, mid) ∧
      Task.rounds publisher (Task.longest begun) begun mid =
        (js.map fun j => j.task (.counted j.succeeds),
          Relay.keeping b (es ++ (Job.schedule js).flatMap Job.lines) (s.served js)) := by
  intro js mid begun
  have hround : Task.round publisher (js.map Job.fresh) (Relay.keeping b es s) = (begun, mid) :=
    round_fresh publisher.leave b ms es s js rfl
  have hsettle : Task.settle publisher (js.map Job.fresh) (Relay.keeping b es s) = _ :=
    settle_jobs publisher.leave b es s (show js = jobsFrom s.script s.sent.length ms from rfl)
  rw [Task.settle, bind_at, hround] at hsettle
  rw [Job.fresh_jobsFrom] at hround
  exact ⟨hround, hsettle⟩

variable {expected queues records : Value} {qs raws : List Value}
  (hqs : queues.members? = some qs) (hraws : records.members? = some raws)
  (hopen : s.openFault? = none) (hab : ∀ raw ∈ raws, aborts raw expected = false)

include hqs hraws hopen hab

/-- A run in which no record aborts, in its rounds: the first begins all sends, the others end those
that yield, and then the publisher is left with the tally. -/
theorem run_in_rounds :
    ∃ b' lines cms, cms.map Prod.snd = raws.flatMap (due qs expected) ∧
      let js := jobsFrom s.script s.sent.length cms
      let mid := Relay.keeping b' (lines ++ (Job.endingAt js 0).flatMap Job.lines)
        (s.enter.launchAll js)
      let begun := js.map (Job.after 0)
      let run := FanOut.run publisher expected queues records (Relay.keeping b es s)
      Task.round publisher (cms.map fun cm => Task.create cm.1 cm.2)
          (Relay.keeping b' lines s.enter) = (begun, mid) ∧
        run = (Task.rounds publisher (Task.longest begun) begun >>= fun ts =>
          FanOut.leave publisher (.ok (Task.tally ts))) mid ∧
        run = (.ok (s.script.tally s.sent.length (raws.flatMap (due qs expected))),
          Relay.keeping b' (lines ++ (Job.schedule js).flatMap Job.lines)
            (s.enter.served js).leave) := by
  have hsends := (offering_of_no_abort hqs expected hab b).2
  have hrun : FanOut.run publisher expected queues records (Relay.keeping b es s) = _ :=
    run_of_no_abort publisher.leave b es s expected queues hraws hopen hqs hab
  obtain ⟨o, ho⟩ : ∃ o, o = offering queues expected b raws := ⟨_, rfl⟩
  simp only [settled, ← ho, leave_run] at hrun hsends
  refine ⟨o.bound, es ++ o.lines, o.messages, hsends, ?_⟩
  intro js mid begun run
  obtain ⟨hround, hrounds⟩ := settle_in_rounds o.bound (es ++ o.lines) s.enter o.messages
  have htally : Task.tally (js.map fun j => j.task (.counted j.succeeds)) =
      s.script.tally s.sent.length (raws.flatMap (due qs expected)) := by
    rw [← hsends]
    exact tally_jobsFrom s.script s.sent.length o.messages
  refine ⟨hround, hrun.trans ?_, hrun⟩
  rw [bind_at, show Task.rounds publisher (Task.longest begun) begun mid = _ from hrounds]
  show _ = FanOut.leave publisher
    (.ok (Task.tally (js.map fun j => j.task (.counted j.succeeds)))) _
  rw [htally]
  rfl

/-- What a run in which no record aborts gives, sends and settles. -/
theorem run_settles :
    let sends := raws.flatMap (due qs expected)
    let run := FanOut.run publisher expected queues records (Relay.keeping b es s)
    run.1 = .ok (s.script.tally s.sent.length sends) ∧
      run.2.publisher.sent = s.sent ++ sends ∧
      ∃ order : List (Message × Nat), order.Perm (sends.zipIdx s.sent.length) ∧
        order.Pairwise s.script.Sooner ∧
        run.2.publisher.settled = s.settled ++ order.map Prod.snd := by
  intro sends run
  have hserving := serving_settled b es s expected queues hqs hab
  have hrun : run = _ := run_of_no_abort publisher.leave b es s expected queues hraws hopen hqs hab
  obtain ⟨hperm, hsorted⟩ := Job.sends_schedule s.script s.sent.length
    (offering queues expected b raws).messages
  rw [(offering_of_no_abort hqs expected hab b).2] at hperm
  rw [hrun]
  refine ⟨rfl, hserving.sent, _, hperm, hsorted, ?_⟩
  rw [List.map_map]
  exact hserving.settled

end

/-- **The schedule of a batch, and independence from it.** A run in which no decision fails offers
its records, gives each of the new tasks its first turn, in order, and then goes on in rounds: so all
sends have begun, and only those that yield not at all have settled, before any other has its next
turn. If all yield, they are in flight together then. The sends settle sorted by their yields and,
among equals, in the order in which they began. On a script that differs in its yields alone, the run
gives the same tally and sends the same messages, and settles them in another order at most. -/
theorem run_schedule {queues records expected : Value} {qs raws : List Value}
    {relay : Relay Store} (hlog : relay.log.Keeps) (hopen : relay.publisher.openFault? = none)
    (hqs : queues.members? = some qs) (hraws : records.members? = some raws)
    (hdec : ∀ raw ∈ raws, ∃ d, ((ofValue raw).decision expected).result = .ok d) :
    let s := relay.publisher
    let sends := raws.flatMap (due qs expected)
    let numbered := sends.zipIdx s.sent.length
    let run := FanOut.run publisher expected queues records relay
    (∃ (cms : List (Context × Message)) (offered mid : Relay Store) (begun : List (Task Pending)),
      cms.map Prod.snd = sends ∧ offered.publisher = s.enter ∧
        Task.round publisher (cms.map fun cm => Task.create cm.1 cm.2) offered = (begun, mid) ∧
        s.enter.Serving mid.publisher sends
          ((numbered.filter s.script.isPrompt).map Prod.snd) ∧
        run = (Task.rounds publisher (Task.longest begun) begun >>= fun ts =>
          FanOut.leave publisher (.ok (Task.tally ts))) mid ∧
        ((∀ send ∈ numbered, s.script.yields send ≠ 0) →
          mid.publisher.inFlight = s.inFlight + raws.countP (accepts expected) * qs.length ∧
            raws.countP (accepts expected) * qs.length ≤ run.2.publisher.maxInFlight)) ∧
      ∃ order : List (Message × Nat), order.Perm numbered ∧ order.Pairwise s.script.Sooner ∧
        run.2.publisher.settled = s.settled ++ order.map Prod.snd ∧
        ∀ (script : Script) (log : Log), script.untimed = s.script.untimed → log.Keeps →
          let other := FanOut.run publisher expected queues records ⟨log, { s with script }⟩
          (∃ tally, run.1 = .ok tally ∧ other.1 = .ok tally) ∧
            run.2.publisher.sent = s.sent ++ sends ∧ other.2.publisher.sent = s.sent ++ sends ∧
            ∃ indices, other.2.publisher.settled = s.settled ++ indices ∧
              indices.Perm (order.map Prod.snd) := by
  obtain ⟨b, es, s, rfl⟩ := Relay.exists_keeping hlog
  intro s' sends numbered run
  have hab := forall_decides_iff.mp hdec
  constructor
  · obtain ⟨b', lines, cms, hcms, hround, hrest, hrun⟩ := run_in_rounds b es s hqs hraws hopen hab
    obtain ⟨js, hjs⟩ : ∃ js, js = jobsFrom s.script s.sent.length cms := ⟨_, rfl⟩
    rw [← hjs] at hround hrest hrun
    have hserving := Store.serving_launchAll js s.enter
    rw [hjs, Job.message_jobsFrom, Job.index_endingAt, hcms, ← hjs] at hserving
    refine ⟨cms, _, _, _, hcms, rfl, hround, hserving, hrest, fun hyields => ?_⟩
    have hwaits : ∀ j ∈ js, j.step.yields ≠ 0 := by
      intro j hj
      rw [hjs] at hj
      rw [Job.yields_of_mem_jobsFrom hj]
      refine hyields j.send ?_
      have hmem := List.mem_map_of_mem (f := Job.send) hj
      rwa [Job.send_jobsFrom, hcms] at hmem
    have hlength : raws.countP (accepts expected) * qs.length = js.length := by
      rw [← length_flatMap_due, ← hcms, ← Job.message_jobsFrom s.script cms s.sent.length, ← hjs,
        List.length_map]
    rw [hlength]
    exact ⟨s.enter.inFlight_launchAll_of_waits hwaits, by
      rw [show run = _ from hrun]
      exact s.enter.length_le_maxInFlight_served hwaits⟩
  · obtain ⟨hok, hsent, order, hperm, hsorted, hsettled⟩ := run_settles b es s hqs hraws hopen hab
    refine ⟨order, hperm, hsorted, hsettled, fun script log huntimed hlog' => ?_⟩
    have hopens : script.untimed.opens = s.script.untimed.opens :=
      congrArg (fun untimed : Script => untimed.opens) huntimed
    have hopen' : ({ s with script } : Store).openFault? = none := by
      rw [← hopen]
      exact congrArg (fun opens : List (Option Fault) => (opens[s.entered]?).join) hopens
    obtain ⟨hok', hsent', order', hperm', -, hsettled'⟩ := run_settles log.bound log.entries
      { s with script } hqs hraws hopen' hab
    have hrelay : Relay.keeping log.bound log.entries { s with script } =
        ⟨log, { s with script }⟩ := by
      unfold Relay.keeping
      rw [← hlog'.eq_keeping]
    rw [hrelay] at hok' hsent' hsettled'
    -- Both runs have the same records, so they send the same and their schedules permute it.
    have htally := Script.tally_of_untimed huntimed s.sent.length sends
    exact ⟨⟨_, hok, hok'.trans (congrArg Except.ok htally)⟩, hsent, hsent', _, hsettled',
      (hperm'.trans hperm.symm).map _⟩

/-- A record for two queues, of which the first answers two turns later and the second one, beside
the script in which both answer at once. -/
theorem run_schedule_late_first :
    let raws := [sample "PHgvPg==" "AQ==" "Ag=="]
    let qs : List Value := [.text "q1", .text "q2"]
    let prompt : Step := ⟨0, none, .int 1, none, .null⟩
    let script : Script :=
      ⟨[], [("q1", { prompt with yields := 2 }), ("q2", { prompt with yields := 1 })], []⟩
    let script' : Script := ⟨[], [("q1", prompt), ("q2", prompt)], []⟩
    let relay : Relay Store := ⟨Log.empty, .ofScript script⟩
    let relay' : Relay Store := ⟨Log.empty, .ofScript script'⟩
    let numbered := (raws.flatMap (due qs (.text "aws:dynamodb"))).zipIdx
    let run := FanOut.run publisher (.text "aws:dynamodb") (.tuple qs) (.list raws) relay
    let run' := FanOut.run publisher (.text "aws:dynamodb") (.tuple qs) (.list raws) relay'
    ((relay.log.Keeps ∧ relay.publisher.openFault? = none ∧
      ∀ raw ∈ raws, ∃ d, ((ofValue raw).decision (.text "aws:dynamodb")).result = .ok d) ∧
      (∀ send ∈ numbered, script.yields send ≠ 0) ∧ script'.untimed = script.untimed) ∧
    2 ≤ run.2.publisher.maxInFlight ∧
    (∃ order : List (Message × Nat), order.Perm numbered ∧ order.Pairwise script.Sooner ∧
      run.2.publisher.settled = order.map Prod.snd) ∧
    ∃ tally, run.1 = .ok tally ∧ run'.1 = .ok tally := by
  intro raws qs prompt script script' relay relay' numbered run run'
  have hab : ∀ raw ∈ raws, aborts raw (.text "aws:dynamodb") = false := by decide
  have hdec : ∀ raw ∈ raws, ∃ d,
      ((ofValue raw).decision (.text "aws:dynamodb")).result = .ok d := forall_decides_iff.mpr hab
  have hyields : ∀ send ∈ numbered, script.yields send ≠ 0 := by decide
  have huntimed : script'.untimed = script.untimed := rfl
  have hcount : raws.countP (accepts (.text "aws:dynamodb")) * qs.length = 2 := by decide
  obtain ⟨⟨_, _, _, _, -, -, -, -, -, hall⟩, order, hperm, hsorted, hsettled, htiming⟩ :=
    run_schedule (show relay.log.Keeps from Log.keeps_empty) rfl
      (show (Value.tuple qs).members? = some qs from rfl)
      (show (Value.list raws).members? = some raws from rfl) hdec
  -- The runs are compared as they stand: unfolded, they would be evaluated.
  have hinFlight : 2 ≤ run.2.publisher.maxInFlight := by
    have hall := (hall hyields).2
    rw [hcount] at hall
    with_reducible exact hall
  have hsettled' : run.2.publisher.settled = order.map Prod.snd := by
    rw [show relay.publisher.settled = [] from rfl, List.nil_append] at hsettled
    with_reducible exact hsettled
  exact ⟨⟨⟨Log.keeps_empty, rfl, hdec⟩, hyields, huntimed⟩, hinFlight,
    ⟨order, hperm, hsorted, hsettled'⟩, (htiming script' Log.empty huntimed Log.keeps_empty).1⟩

end StreamRelay.Memory
