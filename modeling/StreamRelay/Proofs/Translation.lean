import StreamRelay.Proofs.Mirroring
import StreamRelay.Proofs.Outcomes
import StreamRelay.Proofs.Senders

/-!
# The SQS publisher as a memory publisher

The step of a request translates to that of a send on a memory publisher which answers as the SQS
publisher does (`Step.onMemory`): a refusal by the service or the transport is a failed send, any
other fault stays one, and so does an answer that is no dictionary. With its script translated, the
memory publisher is mirrored by an SQS publisher whose client is open (`mirrors_memory`), and
callers cannot tell one from the other (`serve_mirrors_memory`); only the lines that the SQS
publisher writes for its sends are not there.
-/

namespace StreamRelay

open Relay

namespace Sqs

/-! ### Steps and answers -/

/-- The step of a memory publisher that answers as the service does to the `i`-th request. -/
def Step.onMemory (step : Step) (i : Nat) : Memory.Step :=
  match step.fault with
  | some fault =>
    if fault.isTransport then ⟨step.yields, none, .bool false, some .null, .text fault.message⟩
    else ⟨step.yields, some fault, .null, none, .null⟩
  | none =>
    match step.response with
    | some (.dict es) => ⟨step.yields, none, .bool true, some (Value.getD "MessageId" es), .null⟩
    | some v => ⟨step.yields, some (.noSuchMember v.typeName "get"), .null, none, .null⟩
    | none => ⟨step.yields, none, .bool true, some (.text ("sqs-" ++ toString (i + 1))), .null⟩

theorem Step.yields_onMemory (step : Step) (i : Nat) : (step.onMemory i).yields = step.yields := by
  unfold onMemory
  split
  · split <;> rfl
  · split <;> rfl

/-- The script of a memory publisher that answers the first `n` sends as the service answers the
first `n` requests. -/
def Script.onMemory (script : Script) (n : Nat) : Memory.Script :=
  ⟨[], [], (List.range n).map fun i => some ((script.step i).onMemory i)⟩

theorem Script.step_onMemory (script : Script) {n i : Nat} (h : i < n) (destination : Value) :
    (script.onMemory n).step destination i = (script.step i).onMemory i := by
  have hqueue : (script.onMemory n).queue? destination = none := by cases destination <;> rfl
  rw [Memory.Script.step, hqueue]
  simp only [onMemory, List.getElem?_map, List.getElem?_range h, Option.map_some, Option.join_some,
    Option.getD_some]

def Pending.onMemory (p : Pending) : Memory.Pending :=
  ⟨p.index, p.destination, p.step.onMemory p.index⟩

/-- The lines that the SQS publisher writes when a request ends. -/
def isSendLine (e : Log.Entry) : Bool :=
  e.logger == logger && ["SQS send failed", "SQS message sent"].contains e.event

theorem isSendLine_of_core {e : Log.Entry} (h : e.logger ∈ Log.core) : isSendLine e = false := by
  have hne : e.logger ≠ logger := fun heq => absurd (heq ▸ h) (by decide)
  simp [isSendLine, hne]

theorem filter_of_core {es : List Log.Entry} (h : ∀ e ∈ es, e.logger ∈ Log.core) :
    es.filter (!isSendLine ·) = es :=
  List.filter_eq_self.mpr fun e he => by simp [isSendLine_of_core (h e he)]

/-- The receipt for a request is what the memory publisher answers, and all that making it out
writes are lines of sends. -/
theorem receipt_run (p : Pending) :
    (receipt p).Steady ∧ (receipt p).result = p.onMemory.answer ∧
      ∀ b, ∀ e ∈ (receipt p).lines b, isSendLine e = true := by
  have hline (level : Log.Level) {event : String}
      (hevent : event ∈ ["SQS send failed", "SQS message sent"]) (fields : Context) (r : Receipt) :
      let x : Logged Receipt := do Log.write logger level event fields; return r
      x.Steady ∧ x.result = .ok r ∧ ∀ b, ∀ e ∈ x.lines b, isSendLine e = true := by
    refine ⟨(Logged.steady_write _ _ _ _).bind fun _ => Logged.steady_pure _, rfl, fun b e he => ?_⟩
    obtain rfl : e = ⟨level, logger, event, fields, b⟩ := List.mem_singleton.mp he
    simpa [isSendLine] using hevent
  have hthrow (fault : Fault) : (throw fault : Logged Receipt).Steady ∧
      (throw fault : Logged Receipt).result = .error fault ∧
      ∀ b, ∀ e ∈ (throw fault : Logged Receipt).lines b, isSendLine e = true :=
    ⟨Logged.steady_throw _, rfl, fun b e he => by cases he⟩
  obtain ⟨index, destination, ⟨yields, fault, response⟩, ownClient⟩ := p
  unfold receipt Pending.onMemory Memory.Pending.answer Step.onMemory
  cases fault with
  | some fault =>
    simp only []
    split
    · exact hline _ (by decide) _ _
    · exact hthrow _
  | none =>
    cases response with
    | none => exact hline _ (by decide) _ _
    | some v =>
      cases v with
      | dict es => exact hline _ (by decide) _ _
      | _ => exact hthrow _

/-! ### Sends -/

variable (b : Context) (es : List Log.Entry) (a : Sender)

theorem finish_run {p : Pending} (hp : p.ownClient = false) (x : Sender) :
    publisher.finish p (Relay.keeping b es x) =
      (p.onMemory.answer, Relay.keeping b (es ++ (receipt p).lines b) x) := by
  obtain ⟨hs, hr, -⟩ := receipt_run p
  show finish p _ = _
  rw [finish, if_neg (by simp [hp]), ← hr]
  exact Relay.onLog_run hs b es x

/-- A sender with an open client that made the same requests as a memory publisher, which answers the
sends so far and `k` more as the service does. -/
def Mirrored (a : Sender) (k : Nat) (x : Sender) (m : Memory.Store) : Prop :=
  ∃ rs : List Request, x = a.serving rs ∧ m.sent.map Message.request = rs.map .ok ∧
    ∀ destination i, i < rs.length + k →
      m.script.step destination i = (a.session.script.step i).onMemory i

/-- **The SQS publisher mirrors the memory publisher** while its client is open. -/
theorem mirrors_memory : publisher.Mirrors Memory.publisher (!isSendLine ·) (Mirrored a)
    (fun x y => x.ownClient = false ∧ x.onMemory = y) (fun m => ∃ r, m.request = .ok r) where
  core e he := by simp [isSendLine_of_core he]
  begin base k m hm x y hxy := by
    obtain ⟨r, hr⟩ := hm
    obtain ⟨b, es, s, store, rfl, rfl, rs, rfl, hsent, hsteps⟩ := hxy.eq_keeping
    have hlen : store.sent.length = rs.length := by simpa using congrArg List.length hsent
    -- the send and the request have the same number, so their steps correspond
    have hstep : store.script.step m.destination store.sent.length =
        (a.session.script.step rs.length).onMemory rs.length := by
      rw [hlen]
      exact hsteps m.destination rs.length (by omega)
    rw [begin_run b (base ++ es) a rs hr, show Memory.publisher.begin m
        (Relay.keeping b (base ++ es.filter (!isSendLine ·)) store) =
      (.ok ((store.script.step m.destination store.sent.length).yields,
          ⟨store.sent.length, m.destination, store.script.step m.destination store.sent.length⟩),
        Relay.keeping b (base ++ es.filter (!isSendLine ·)) (store.push m)) from rfl]
    refine ⟨⟨?_, rfl, ?_⟩, alike_keeping b es ⟨rs ++ [r], rfl, ?_, fun destination i hi => ?_⟩⟩
    · rw [hstep, Step.yields_onMemory]
    · rw [hstep, hlen]; rfl
    · show (store.sent ++ [m]).map Message.request = _
      rw [List.map_append, List.map_append, hsent, List.map_singleton, List.map_singleton, hr]
    · refine hsteps destination i ?_
      rw [List.length_append, List.length_singleton] at hi
      omega
  finish base k p q hpq x y hxy := by
    obtain ⟨hown, rfl⟩ := hpq
    obtain ⟨b, es, s, store, rfl, rfl, rs, rfl, hsent, hsteps⟩ := hxy.eq_keeping
    have hfinish : Memory.publisher.finish p.onMemory
        (Relay.keeping b (base ++ es.filter (!isSendLine ·)) store) =
      (p.onMemory.answer, Relay.keeping b (base ++ es.filter (!isSendLine ·))
        (store.settle p.index)) := by
      show (((p.onMemory.answer : Except Fault Receipt) : Action Memory.Store Receipt) _) = _
      cases p.onMemory.answer <;> rfl
    -- settling changes nothing that is related, and what the receipt writes is not shown
    rw [finish_run b (base ++ es) hown, hfinish]
    refine ⟨rfl, alike_append_hidden ⟨rs, rfl, hsent, hsteps⟩ fun e he => ?_⟩
    rw [(receipt_run p).2.2 b e he]
    rfl

/-! ### Deliveries -/

open StreamRecord FanOut

variable (region endpointUrl : Value) {script : Script}

/-- **A delivery in which no record aborts**, on a new sender and on a memory publisher with the
translated script. Both send the messages due, in order; the memory publisher comes to the tally of
its script, and the sender to the same unless closing its client fails. The names bound at the end
are the same, and so are the lines but for those of sends. -/
theorem deliver_mirrors {expected queues records : Value} {qs raws : List Value}
    (hqs : queues.members? = some qs) (hraws : records.members? = some raws)
    (hab : ∀ raw ∈ raws, aborts raw expected = false) (hopen : script.openFault? = none) {n : Nat}
    (hn : (raws.flatMap (due qs expected)).length ≤ n) :
    let a := Sender.new region endpointUrl script
    let sends := raws.flatMap (due qs expected)
    let tally := (script.onMemory n).tally 0 sends
    ∃ b' fs rs store, sends.map Message.request = rs.map .ok ∧ store.sent = sends ∧
      deliver publisher expected queues records (Relay.keeping b es a) =
        (.clear (script.ending tally), Relay.keeping b' (es ++ fs) (a.served rs)) ∧
      deliver Memory.publisher expected queues records
          (Relay.keeping b es (.ofScript (script.onMemory n))) =
        (.clear (.ok tally), Relay.keeping b' (es ++ fs.filter (!isSendLine ·)) store) := by
  intro a sends tally
  have hM : Mirrored a (0 + sends.length) (a.serving [])
      (Memory.Store.ofScript (script.onMemory n)).enter := by
    refine ⟨[], rfl, rfl, fun destination i hi => script.step_onMemory ?_ destination⟩
    rw [List.length_nil, Nat.zero_add, Nat.zero_add] at hi
    exact Nat.lt_of_lt_of_le hi hn
  have hsend : ∀ m ∈ sends, ∃ r, m.request = .ok r := by
    intro m hm
    obtain ⟨raw, -, hdue⟩ := List.mem_flatMap.mp hm
    exact request_of_mem_due hdue
  obtain ⟨tally', r, r', halike, hsqs, hmem⟩ := (mirrors_memory a).deliver_alike hqs hraws hab hsend
    (enter_run b es region endpointUrl hopen)
    (Memory.enter_run Memory.publisher.leave b es (.ofScript (script.onMemory n))) 0 hM
  obtain ⟨b', fs, x, store, rfl, rfl, rs, rfl, hsent, -⟩ := halike.eq_keeping
  -- the tally and the messages sent are those that the memory publisher is known to come to
  have hdeliver := Memory.deliver_of_no_abort Memory.publisher.leave b es
    (.ofScript (script.onMemory n)) expected queues hraws rfl hqs hab
  have hserving := Memory.serving_settled b es (.ofScript (script.onMemory n)) expected queues hqs
    hab
  have hboth := hmem.symm.trans hdeliver
  obtain rfl : tally' = tally :=
    Except.ok.inj (congrArg (fun x => x.1.result) hboth : Except.ok tally' = Except.ok tally)
  have hstore : store.sent = sends :=
    (congrArg (fun x => x.2.publisher.sent) hboth).trans hserving.sent
  rw [hstore] at hsent
  refine ⟨b', fs, rs, store.leave, hsent, hstore, hsqs.trans ?_, hmem⟩
  rw [leave_run]
  rfl

end Sqs

/-! ### Callers -/

namespace Invocation

open Sqs StreamRecord FanOut

/-- The most sends that an invocation can come to: one for each record and queue. -/
def mostSends (arg : Value) : Nat :=
  ((batchAt arg).getD []).length * ((queuesAt arg).getD []).length

variable (expected : Value) {arg : Value} (b : Context) (es : List Log.Entry)

theorem run_mirrors (hpass : stop? arg = none) {qs raws : List Value}
    (hqs : queuesAt arg = some qs) (hraws : batchAt arg = some raws)
    (hab : ∀ raw ∈ raws, aborts raw expected = false) (region endpointUrl : Value)
    {script : Script} (hopen : script.openFault? = none) {n : Nat}
    (hn : (raws.flatMap (due qs expected)).length ≤ n) :
    let a := Sender.new region endpointUrl script
    let sends := raws.flatMap (due qs expected)
    let tally := (script.onMemory n).tally 0 sends
    ∃ b' fs rs store, sends.map Message.request = rs.map .ok ∧ store.sent = sends ∧
      run Sqs.publisher expected arg (Relay.keeping b es a) =
        (reported raws.length (script.ending tally), Relay.keeping b'
          (es ++ (fs ++ (report raws.length (script.ending tally)).lines b')) (a.served rs)) ∧
      run Memory.publisher expected arg (Relay.keeping b es (.ofScript (script.onMemory n))) =
        (reported raws.length (.ok tally), Relay.keeping b' (es ++ (fs.filter (!isSendLine ·) ++
          (report raws.length (.ok tally)).lines b')) store) := by
  intro a sends tally
  obtain ⟨queues, records, hq, hb, hrun⟩ := run_of_pass_any expected hpass
  rw [hqs] at hq
  rw [hraws] at hb hrun
  obtain ⟨b', fs, rs, store, hrequests, hsent, hsqs, hmem⟩ := deliver_mirrors b
    (es ++ (check arg).lines b) region endpointUrl hq hb hab hopen hn
  refine ⟨b', (check arg).lines b ++ fs, rs, store, hrequests, hsent,
    (hrun Sqs.publisher b es a _ _ _ _ hsqs).trans ?_,
    (hrun Memory.publisher b es _ _ _ _ _ hmem).trans ?_⟩
  · simp only [List.append_assoc]
    rfl
  · rw [List.filter_append, filter_of_core ((check_core arg).logger_mem b)]
    simp only [List.append_assoc]
    rfl

theorem serve_mirrors {σ τ π ρ : Type} {p : Publisher σ π} {q : Publisher τ ρ} {context : Context}
    {result : Except Fault Outcome} {fs : List Log.Entry} {b' : Context} {s s' : σ} {t t' : τ}
    (hp : run p expected arg
        (Relay.keeping (b.bind [("correlation_id", requestId context)]) es s) =
      (result, Relay.keeping b' (es ++ fs) s'))
    (hq : run q expected arg
        (Relay.keeping (b.bind [("correlation_id", requestId context)]) es t) =
      (result, Relay.keeping b' (es ++ fs.filter (!isSendLine ·)) t')) :
    ∃ bound lines,
      serve p expected context arg (Relay.keeping b es s) =
        (result, Relay.keeping bound (es ++ lines) s') ∧
      serve q expected context arg (Relay.keeping b es t) =
        (result, Relay.keeping bound (es ++ lines.filter (!isSendLine ·)) t') := by
  have hannounced := filter_of_core (Logged.logger_mem_linesAfter announce_core b' result)
  refine ⟨b'.unbind [("correlation_id", requestId context)] b,
    fs ++ Logged.linesAfter announce b' result, ?_, ?_⟩
  · rw [serve_run p expected b es s hp, List.append_assoc]
  · rw [serve_run q expected b es t hq, List.filter_append, hannounced, List.append_assoc]

theorem length_sends_le {qs raws : List Value} (hqs : queuesAt arg = some qs)
    (hraws : batchAt arg = some raws) :
    (raws.flatMap (due qs expected)).length ≤ mostSends arg := by
  rw [length_flatMap_due, mostSends, hqs, hraws]
  exact Nat.mul_le_mul_right _ List.countP_le_length

/-- **The SQS publisher, as a caller sees it**, is a memory publisher with the translated script. If
its first client opens and closes, and no record that is offered makes its decision fail, serving an
argument gives the same result on both, leaves the same names bound, and writes the same lines but
for those of sends. The result is an outcome, unless a gate stops on what has no text. An argument
that passes the gates has one client created, opened and closed, which carries every request, and
these are the requests of the messages sent on the memory publisher; an argument that a gate stops
reaches neither. -/
theorem serve_mirrors_memory (expected : Value) (context : Context) (arg : Value)
    (region endpointUrl : Value) (script : Script) {log : Log} (hlog : log.Keeps)
    (hopen : script.openFault? = none) (hclose : script.closeFault? = none) {n : Nat}
    (hn : mostSends arg ≤ n)
    (hdec : stop? arg = none → ∀ raw ∈ (batchAt arg).getD [],
      ∃ d, ((ofValue raw).decision expected).result = .ok d) :
    let a := Sender.new region endpointUrl script
    let m := Memory.Store.ofScript (script.onMemory n)
    ∃ result bound lines a' m',
      serve Sqs.publisher expected context arg ⟨log, a⟩ =
        (result, Relay.keeping bound (log.entries ++ lines) a') ∧
      serve Memory.publisher expected context arg ⟨log, m⟩ =
        (result, Relay.keeping bound (log.entries ++ lines.filter (!isSendLine ·)) m') ∧
      (stop? arg = none ∨ Writable arg → ∃ outcome, result = .ok outcome) ∧
      (Unwritable arg → result = .error .tooManyDigits) ∧
      (stop? arg = none →
        a'.session.created = [a.settings] ∧ a'.session.opened = [0] ∧ a'.session.closed = [0] ∧
          ∃ rs : List Request, a'.session.requests = rs.map (0, ·) ∧
            m'.sent.map Message.request = rs.map .ok) ∧
      (stop? arg ≠ none → a' = a ∧ m' = m) := by
  intro a m
  obtain ⟨b, es, rfl⟩ := hlog.exists_keeping
  cases hstop : stop? arg with
  | some status =>
    obtain ⟨message, hrun⟩ := run_of_stop_any expected hstop
    have hq := hrun Memory.publisher (b.bind [("correlation_id", requestId context)]) es m
    rw [← filter_of_core ((check_core arg).logger_mem _)] at hq
    obtain ⟨bound, lines, hsqs, hmem⟩ :=
      serve_mirrors expected b es (hrun Sqs.publisher _ es a) hq
    refine ⟨_, bound, lines, a, m, hsqs, hmem, fun h => ?_, fun h => ?_, (fun h => by cases h),
      fun _ => ⟨rfl, rfl⟩⟩
    · exact ⟨_, ended_of_writable (h.resolve_left (by simp)) status message⟩
    · exact ended_of_unwritable h status message
  | none =>
    obtain ⟨⟨qs, hqs, -⟩, raws, hraws, -⟩ := stop?_eq_none.mp hstop
    have hab := forall_decides_iff.mp (hdec hstop)
    rw [hraws, Option.getD_some] at hab
    obtain ⟨b', fs, rs, store, hrequests, hsent, hp, hq⟩ := run_mirrors expected
      (b.bind [("correlation_id", requestId context)]) es hstop hqs hraws hab region endpointUrl
      hopen (Nat.le_trans (length_sends_le expected hqs hraws) hn)
    have hending : ∀ tally, script.ending tally = .ok tally := fun tally => by
      rw [Script.ending, hclose]
    simp only [hending] at hp
    rw [← filter_of_core ((report_core _ _).logger_mem b'), ← List.filter_append] at hq
    obtain ⟨bound, lines, hsqs, hmem⟩ := serve_mirrors expected b es hp hq
    obtain ⟨hcreated, hopened, hclosed, hrequested⟩ := a.session_served rs
    exact ⟨_, bound, lines, a.served rs, store, hsqs, hmem, fun _ => ⟨_, rfl⟩,
      fun h => absurd hstop h.stop?_ne_none, fun _ => ⟨hcreated, hopened, hclosed, rs, hrequested, by rw [hsent, hrequests]⟩,
      fun h => absurd rfl h⟩

/-- Three sends, of which the first answers late, the second is throttled, and the third gets an
answer that is no dictionary. -/
theorem serve_mirrors_memory_three_answers :
    let record := sample "PHgvPg==" "AQ==" "Ag=="
    let arg := sampleArg (.ofFields [("Records", .list [record, record, record])])
    let throttled : ServiceError := ⟨some "Throttling", some "Rate exceeded", "SendMessage", none⟩
    let script : Script := ⟨[], [], [], [some ⟨2, none, none⟩,
      some ⟨0, some (.service throttled), none⟩, some ⟨0, none, some (.text "OK")⟩]⟩
    let sqs := serve Sqs.publisher (.text "aws:dynamodb") [] arg
      ⟨Log.empty, .new (.text "us-east-1") .null script⟩
    let memory := serve Memory.publisher (.text "aws:dynamodb") [] arg
      ⟨Log.empty, .ofScript (script.onMemory 3)⟩
    (Log.empty.Keeps ∧ script.openFault? = none ∧ script.closeFault? = none ∧
      mostSends arg ≤ 3 ∧ ∀ raw ∈ (batchAt arg).getD [],
        ∃ d, ((ofValue raw).decision (.text "aws:dynamodb")).result = .ok d) ∧
      (∃ outcome, sqs.1 = .ok outcome ∧ memory.1 = .ok outcome) ∧
      memory.2.log.entries = sqs.2.log.entries.filter (!isSendLine ·) ∧
      sqs.2.publisher.session.closed = [0] := by
  intro record arg throttled script sqs memory
  have hmost : mostSends arg ≤ 3 := by decide
  have hab : ∀ raw ∈ [record, record, record], aborts raw (.text "aws:dynamodb") = false := by
    decide
  have hdec : ∀ raw ∈ [record, record, record],
      ∃ d, ((ofValue raw).decision (.text "aws:dynamodb")).result = .ok d :=
    forall_decides_iff.mpr hab
  obtain ⟨result, bound, lines, a', m', hsqs, hmem, hended, -, hpass, -⟩ :=
    serve_mirrors_memory (.text "aws:dynamodb") [] arg (.text "us-east-1") .null script
      Log.keeps_empty rfl rfl hmost fun _ => hdec
  obtain ⟨outcome, houtcome⟩ := hended (.inl rfl)
  rw [show sqs = _ from hsqs, show memory = _ from hmem]
  exact ⟨⟨Log.keeps_empty, rfl, rfl, hmost, hdec⟩, ⟨outcome, houtcome, houtcome⟩, rfl,
    (hpass rfl).2.2.1⟩

end Invocation

end StreamRelay
