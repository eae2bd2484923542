import StreamRelay.Proofs.Delivery
import StreamRelay.Proofs.Gates

/-!
# Outcomes of invocations

An invocation that a gate stops never touches its publisher, and ends with an outcome where there is
a text for what the gate writes out (`run_of_stop`); a number of too many digits has none
(`run_of_long_queues`). One that passes enters a memory publisher once, and ends by the fault of the
opening, by a record that aborts, or with the tally of all sends (`run_of_fault`, `run_of_abort`,
`run_of_no_abort`). These are all runs there are, which gives what a run does by its argument
(`run_refines_gates`), and which arguments fail (`serve_fails_iff`).
-/

namespace StreamRelay

/-- Names bound around an action are those that it runs under. -/
theorem Action.binding_run {σ α : Type} {x : Action σ α} {names b c : Context}
    {es es' : List Log.Entry} {s s' : σ} {r : Except Fault α}
    (h : x (Relay.keeping (b.bind names) es s) = (r, Relay.keeping c es' s')) :
    x.binding names (Relay.keeping b es s) = (r, Relay.keeping (c.unbind names b) es' s') := by
  unfold binding
  rw [show ({ Relay.keeping b es s with log := { (Relay.keeping b es s).log with
    bound := (Relay.keeping b es s).log.bound.bind names } } : Relay σ) =
      Relay.keeping (b.bind names) es s from rfl, h]
  rfl

namespace Invocation

open StreamRecord FanOut

variable {σ π : Type}

/-! ### Reports -/

/-- The outcome, or the fault, that the end of a delivery comes to. -/
def reported (records : Nat) : Except Fault Tally → Except Fault Outcome
  | .error (.publisherUnavailable message) =>
    .ok (.stopped .failed ("Cannot open publisher: " ++ message))
  | .error fault => .error fault
  | .ok tally => .ok (.finished records tally)

theorem report_run (records : Nat) (result : Except Fault Tally) :
    (report records result).Steady ∧ (report records result).result = reported records result := by
  cases result with
  | ok tally =>
    exact ⟨(Logged.steady_write _ _ _ _).bind fun _ => Logged.steady_pure _, rfl⟩
  | error fault =>
    cases fault with
    | publisherUnavailable message =>
      exact ⟨(Logged.steady_write _ _ _ _).bind fun _ => Logged.steady_pure _, rfl⟩
    | _ => exact ⟨Logged.steady_throw _, rfl⟩

/-! ### Runs -/

section

variable (p : Publisher σ π) (expected : Value) {arg : Value} (b : Context) (es : List Log.Entry)
  (s : σ)

/-- An invocation that a gate stops does nothing to its publisher, and ends and writes the same
whatever it is. -/
theorem run_of_stop_any {status : Status} (h : stop? arg = some status) :
    ∃ message, ∀ {σ π : Type} (p : Publisher σ π) (b : Context) (es : List Log.Entry) (s : σ),
      run p expected arg (Relay.keeping b es s) =
        (Gate.ended (refused? arg) status message,
          Relay.keeping b (es ++ (check arg).lines b) s) := by
  obtain ⟨hs, message, queues, records, hr, -, -⟩ := check_run arg
  rw [h] at hr
  refine ⟨message, fun p b es s => ?_⟩
  rw [run, bind_at, answer, bind_at, Relay.onLog_run hs, hr]
  simp only []
  cases Gate.ended (refused? arg) status message <;> rfl

theorem run_of_stop {status : Status} (h : stop? arg = some status) :
    ∃ message es', run p expected arg (Relay.keeping b es s) =
      (Gate.ended (refused? arg) status message, Relay.keeping b es' s) := by
  obtain ⟨message, hrun⟩ := run_of_stop_any expected h
  exact ⟨message, _, hrun p b es s⟩

/-- An invocation that passes the gates delivers its batch, which does not depend on the publisher,
reports the end of the delivery, and drains what is left over. -/
theorem run_of_pass_any (h : stop? arg = none) :
    ∃ queues records, queues.members? = queuesAt arg ∧ records.members? = batchAt arg ∧
      ∀ {σ π : Type} (p : Publisher σ π) (b : Context) (es : List Log.Entry) (s : σ) (e b' es' s'),
        deliver p expected queues records
          (Relay.keeping b (es ++ (check arg).lines b) s) = (e, Relay.keeping b' es' s') →
        let n := ((batchAt arg).getD []).length
        run p expected arg (Relay.keeping b es s) =
          Ending.drain p ⟨reported n e.result, e.before, e.after⟩
            (Relay.keeping b' (es' ++ (report n e.result).lines b') s') := by
  obtain ⟨hs, message, queues, records, hr, hq, hb⟩ := check_run arg
  rw [h] at hr
  refine ⟨queues, records, hq, hb, fun p b es s e b' es' s' he => ?_⟩
  obtain ⟨hsteady, hresult⟩ := report_run ((batchAt arg).getD []).length e.result
  rw [run, bind_at, answer, bind_at, Relay.onLog_run hs, hr]
  simp only []
  rw [bind_at, he, hb, bind_at, Relay.onLog_run hsteady, hresult]
  rfl

theorem run_of_pass (h : stop? arg = none) :
    ∃ queues records, queues.members? = queuesAt arg ∧ records.members? = batchAt arg ∧
      ∀ e b' es' s', deliver p expected queues records
          (Relay.keeping b (es ++ (check arg).lines b) s) = (e, Relay.keeping b' es' s') →
        let n := ((batchAt arg).getD []).length
        run p expected arg (Relay.keeping b es s) =
          Ending.drain p ⟨reported n e.result, e.before, e.after⟩
            (Relay.keeping b' (es' ++ (report n e.result).lines b') s') := by
  obtain ⟨queues, records, hq, hb, hrun⟩ := run_of_pass_any expected h
  exact ⟨queues, records, hq, hb, hrun p b es s⟩

theorem announce_run (outcome : Outcome) :
    (announce outcome).Steady ∧ (announce outcome).result = .ok () := by
  unfold announce
  split <;> exact ⟨Logged.steady_write _ _ _ _, rfl⟩

/-- Serving a caller ends as the run does under the name of the request. -/
theorem serve_run {context : Context} {r : Except Fault Outcome} {b' : Context}
    {es' : List Log.Entry} {s' : σ}
    (h : run p expected arg
      (Relay.keeping (b.bind [("correlation_id", requestId context)]) es s) =
        (r, Relay.keeping b' es' s')) :
    serve p expected context arg (Relay.keeping b es s) =
      (r, Relay.keeping (b'.unbind [("correlation_id", requestId context)] b)
        (es' ++ Logged.linesAfter announce b' r) s') := by
  unfold serve
  refine Action.binding_run (c := b') ?_
  rw [except_bind_at, show (ExceptT.mk (run p expected arg) : Action σ Outcome) _ = _ from h]
  cases r with
  | error fault => simp only [Logged.linesAfter, List.append_nil]
  | ok outcome =>
    obtain ⟨hs, hr⟩ := announce_run outcome
    have hannounce := Relay.onLog_run hs b' es' s'
    rw [hr] at hannounce
    simp only [Logged.linesAfter]
    rw [except_bind_at,
      show (liftM (announce outcome) : Action σ Unit) (Relay.keeping b' es' s') = _ from hannounce]
    rfl

end

/-! ### Runs on the memory publisher -/

section

open Memory

theorem stop?_eq_none {arg : Value} : stop? arg = none ↔
    (∃ qs, queuesAt arg = some qs ∧ qs ≠ []) ∧ ∃ raws, batchAt arg = some raws ∧ raws ≠ [] := by
  rw [stop?, Option.or_eq_none_iff, Gate.stop?_eq_none, Gate.stop?_eq_none]

variable (expected : Value) {arg : Value} (b : Context) (es : List Log.Entry) (s : Store)
  (hpass : stop? arg = none)

include hpass

theorem run_of_fault {fault : Fault} (hfault : s.openFault? = some fault) :
    ∃ es', run publisher expected arg (Relay.keeping b es s) =
      (reported ((batchAt arg).getD []).length (.error fault), Relay.keeping b es' s.enter) := by
  obtain ⟨queues, records, -, -, hrun⟩ := run_of_pass publisher expected b es s hpass
  exact ⟨_, hrun _ _ _ _ (deliver_of_fault publisher.leave b _ s expected queues records hfault)⟩

variable {qs raws : List Value} (hqs : queuesAt arg = some qs) (hraws : batchAt arg = some raws)
  (hopen : s.openFault? = none)

include hqs hraws hopen

theorem run_of_no_abort (hab : ∀ raw ∈ raws, aborts raw expected = false) :
    ∃ b' es' t, t.entered = s.entered + 1 ∧ run publisher expected arg (Relay.keeping b es s) =
      (.ok (.finished raws.length (s.script.tally s.sent.length (raws.flatMap (due qs expected)))),
        Relay.keeping b' es' t) := by
  obtain ⟨queues, records, hq, hb, hrun⟩ := run_of_pass publisher expected b es s hpass
  rw [hqs] at hq
  rw [hraws] at hb hrun
  have hdeliver := deliver_of_no_abort publisher.leave b (es ++ (check arg).lines b) s expected
    queues hb hopen hq hab
  have hserving := serving_settled b (es ++ (check arg).lines b) s expected queues hq hab
  exact ⟨_, _, (settled queues expected raws b (es ++ (check arg).lines b) s).publisher.leave,
    hserving.entered, hrun _ _ _ _ hdeliver⟩

theorem run_of_abort (hab : ∃ raw ∈ raws, aborts raw expected = true) :
    ∃ b' es' t ms order, s.enter.leave.Serving t ms order ∧
      run publisher expected arg (Relay.keeping b es s) =
        (.error .notAscii, Relay.keeping b' es' t) := by
  obtain ⟨queues, records, hq, hb, hrun⟩ := run_of_pass publisher expected b es s hpass
  rw [hqs] at hq
  rw [hraws] at hb hrun
  have hsome : (offering queues expected b raws).fault? = some .notAscii := by
    rw [fault?_offering hq, if_pos]
    simpa using hab
  have hdeliver := deliver_of_abort b (es ++ (check arg).lines b) s expected queues hb hopen hsome
  have hserving := Store.serving_dropped s.enter.leave (jobsFrom s.script s.sent.length
    (offering queues expected b raws).messages)
  exact ⟨_, _, _, _, _, hserving, (hrun _ _ _ _ hdeliver).trans (drain_fresh _ _ _ _ _)⟩

omit hqs hraws hopen

/-- A run that passes the gates enters its publisher once, however it ends. -/
theorem run_enters {qs raws : List Value} (hqs : queuesAt arg = some qs)
    (hraws : batchAt arg = some raws) :
    ∃ result b' es' t, run publisher expected arg (Relay.keeping b es s) =
      (result, Relay.keeping b' es' t) ∧ t.entered = s.entered + 1 := by
  cases hopen : s.openFault? with
  | some fault =>
    obtain ⟨es', h⟩ := run_of_fault expected b es s hpass hopen
    exact ⟨_, b, es', s.enter, h, rfl⟩
  | none =>
    by_cases hab : ∃ raw ∈ raws, aborts raw expected = true
    · obtain ⟨b', es', t, ms, order, hserving, h⟩ := run_of_abort expected b es s hpass hqs hraws
        hopen hab
      exact ⟨_, b', es', t, h, hserving.entered⟩
    · have hab' : ∀ raw ∈ raws, aborts raw expected = false := fun raw hraw =>
        Bool.eq_false_iff.mpr fun ha => hab ⟨raw, hraw, ha⟩
      obtain ⟨b', es', t, hentered, h⟩ := run_of_no_abort expected b es s hpass hqs hraws hopen hab'
      exact ⟨_, b', es', t, h, hentered⟩

end

section

open Memory

/-- **Runs refine the gates.** A run touches its publisher exactly if the queues and the batch of
its argument are lists with members. If not, it ends as the first gate that stops says, unless this
has a whole number of too many digits to write out; and if so, it enters the publisher once, fails
without a send if the publisher is not available, and else reports the tally of all sends, where no
decision fails. -/
theorem run_refines_gates (expected arg : Value) {relay : Relay Store} (hlog : relay.log.Keeps) :
    let s := relay.publisher
    let result := (run publisher expected arg relay).1
    let s' := (run publisher expected arg relay).2.publisher
    (s' ≠ s ↔ (∃ qs, queuesAt arg = some qs ∧ qs ≠ []) ∧
      ∃ raws, batchAt arg = some raws ∧ raws ≠ []) ∧
    (∀ status, stop? arg = some status → s' = s ∧
      (Writable arg → ∃ message, result = .ok (.stopped status message)) ∧
      (Unwritable arg → result = .error .tooManyDigits)) ∧
    ∀ qs raws, queuesAt arg = some qs → qs ≠ [] → batchAt arg = some raws → raws ≠ [] →
      s'.entered = s.entered + 1 ∧
      (∀ message, s.openFault? = some (.publisherUnavailable message) →
        s'.sent = s.sent ∧
          result = .ok (.stopped .failed ("Cannot open publisher: " ++ message))) ∧
      (s.openFault? = none →
        (∀ raw ∈ raws, ∃ d, ((ofValue raw).decision expected).result = .ok d) →
        let tally := s.script.tally s.sent.length (raws.flatMap (due qs expected))
        result = .ok (.finished raws.length tally) ∧
          tally.successes + tally.failures = raws.countP (accepts expected) * qs.length) := by
  obtain ⟨b, es, s, rfl⟩ := Relay.exists_keeping hlog
  refine ⟨⟨fun htouched => ?_, fun hlists => ?_⟩, fun status hstop => ?_,
    fun qs raws hqs hqs0 hraws hraws0 => ?_⟩
  · -- a publisher that was touched was not spared by a gate
    rw [← stop?_eq_none]
    cases hstop : stop? arg with
    | none => rfl
    | some status =>
      obtain ⟨message, es', hrun⟩ := run_of_stop publisher expected b es s hstop
      rw [hrun] at htouched
      exact absurd rfl htouched
  · -- one that was entered has counted it
    have hpass := stop?_eq_none.mpr hlists
    obtain ⟨⟨qs, hqs, -⟩, raws, hraws, -⟩ := hlists
    obtain ⟨result, b', es', t, hrun, hentered⟩ := run_enters expected b es s hpass hqs hraws
    rw [hrun]
    intro (heq : t = s)
    rw [heq] at hentered
    omega
  · obtain ⟨message, es', hrun⟩ := run_of_stop publisher expected b es s hstop
    rw [hrun]
    exact ⟨rfl, fun h => ⟨message, ended_of_writable h status message⟩,
      fun h => ended_of_unwritable h status message⟩
  · have hpass : stop? arg = none := stop?_eq_none.mpr ⟨⟨qs, hqs, hqs0⟩, raws, hraws, hraws0⟩
    refine ⟨?_, fun message hfault => ?_, fun hopen hdec => ?_⟩
    · obtain ⟨result, b', es', t, hrun, hentered⟩ := run_enters expected b es s hpass hqs hraws
      rw [hrun]; exact hentered
    · obtain ⟨es', hrun⟩ := run_of_fault expected b es s hpass hfault
      rw [hrun]
      exact ⟨rfl, rfl⟩
    · obtain ⟨b', es', t, -, hrun⟩ := run_of_no_abort expected b es s hpass hqs hraws hopen
        (forall_decides_iff.mp hdec)
      rw [hrun]
      exact ⟨rfl, s.script.tally_due _ qs expected raws⟩

def sampleArg (event : Value) : Value :=
  .ofFields [("queues", .list [.text "q"]), ("event", event)]

/-- A batch that is null under `Records` fails, whatever is under `records`. -/
theorem run_refines_gates_null_records :
    let arg := sampleArg (.ofFields [("Records", .null),
      ("records", .list [sample "PHgvPg==" "AQ==" "Ag=="])])
    let relay : Relay Store := ⟨Log.empty, .ofScript .empty⟩
    relay.log.Keeps ∧
      (run publisher (.text "aws:dynamodb") arg relay).2.publisher = relay.publisher ∧
      ∃ message, (run publisher (.text "aws:dynamodb") arg relay).1 =
        .ok (.stopped .failed message) := by
  intro arg relay
  have hlog : relay.log.Keeps := Log.keeps_empty
  have hwritable : Writable arg := fun v hv => by
    obtain rfl : Value.null = v := Option.some.inj hv
    exact ⟨by decide, fun n hn => nomatch hn⟩
  obtain ⟨hsame, hstopped, -⟩ :=
    (run_refines_gates (.text "aws:dynamodb") arg hlog).2.1 .failed rfl
  exact ⟨hlog, hsame, hstopped hwritable⟩

theorem run_of_long_queues (expected : Value) (k : Nat) (h : Value.mostDigits ≤ k) (b : Context)
    (es : List Log.Entry) (s : Store) :
    let arg : Value := .ofFields [("queues", .int (.ofNat (Nat.pow 10 k)))]
    stop? arg = some .failed ∧
      (run publisher expected arg (Relay.keeping b es s)).1 = .error .tooManyDigits := by
  intro arg
  have hstop : stop? arg = some .failed := rfl
  have hlong : Value.mostDigits < (Nat.pow 10 k).repr.length :=
    Nat.lt_of_le_of_lt h (Value.lt_length_repr_pow (Nat.lt_of_lt_of_le (by decide) h))
  have hunwritable : Unwritable arg := ⟨.int (.ofNat (Nat.pow 10 k)), rfl,
    (by decide : 1 ≤ 900), fun hshort =>
      absurd (hshort _ (List.mem_singleton_self _)) (Nat.not_le.mpr hlong)⟩
  obtain ⟨message, es', hrun⟩ := run_of_stop publisher expected b es s hstop
  rw [hrun]
  exact ⟨hstop, ended_of_unwritable hunwritable .failed message⟩

/-- Queues that are a number of 4301 digits make a run fail instead of giving an outcome. -/
theorem run_refuses_long_queues :
    let arg : Value := .ofFields [("queues", .int (.ofNat (Nat.pow 10 4300)))]
    let relay : Relay Store := ⟨Log.empty, .ofScript .empty⟩
    relay.log.Keeps ∧ stop? arg = some .failed ∧
      (run publisher (.text "aws:dynamodb") arg relay).1 = .error .tooManyDigits := by
  -- only that the exponent is large enough matters, and the power is never computed
  generalize hk : 4300 = k
  exact ⟨Log.keeps_empty, run_of_long_queues (.text "aws:dynamodb") k (Nat.le_of_eq hk) [] []
    (.ofScript .empty)⟩

/-- An argument that passes the gates with a record that aborts. -/
def Aborts (expected arg : Value) : Prop :=
  (∃ qs, queuesAt arg = some qs ∧ qs ≠ []) ∧
    ∃ raws, batchAt arg = some raws ∧ ∃ raw ∈ raws, aborts raw expected = true

theorem run_fails_iff (expected : Value) {arg : Value} (hshallow : Shallow arg) (b : Context)
    (es : List Log.Entry) {s : Store} (hopen : s.openFault? = none) :
    ∃ r b' es' t, run publisher expected arg (Relay.keeping b es s) =
      (r, Relay.keeping b' es' t) ∧
      ∀ fault, r = .error fault ↔
        fault = .notAscii ∧ Aborts expected arg ∨ fault = .tooManyDigits ∧ Unwritable arg := by
  cases hstop : stop? arg with
  | some status =>
    obtain ⟨message, es', hrun⟩ := run_of_stop publisher expected b es s hstop
    refine ⟨_, b, es', s, hrun, fun fault => (ended_eq_error_iff hshallow).trans ?_⟩
    have hpass : ¬ Aborts expected arg := fun ⟨hqs, raws, hraws, raw, hraw, _⟩ => by
      rw [stop?_eq_none.mpr ⟨hqs, raws, hraws, List.ne_nil_of_mem hraw⟩] at hstop
      cases hstop
    exact ⟨.inr, fun h => h.resolve_left fun h => hpass h.2⟩
  | none =>
    obtain ⟨⟨qs, hqs, hqs0⟩, raws, hraws, -⟩ := stop?_eq_none.mp hstop
    have hwritten : ¬ Unwritable arg := fun h => h.stop?_ne_none hstop
    by_cases hab : ∃ raw ∈ raws, aborts raw expected = true
    · obtain ⟨b', es', t, ms, order, -, hrun⟩ := run_of_abort expected b es s hstop hqs hraws hopen
        hab
      refine ⟨_, b', es', t, hrun, fun fault => ⟨fun h => ?_, fun h => ?_⟩⟩
      · exact .inl ⟨(Except.error.inj h).symm, ⟨qs, hqs, hqs0⟩, raws, hraws, hab⟩
      · rw [(h.resolve_right fun h => hwritten h.2).1]
    · have hab' : ∀ raw ∈ raws, aborts raw expected = false := fun raw hraw =>
        Bool.eq_false_iff.mpr fun ha => hab ⟨raw, hraw, ha⟩
      obtain ⟨b', es', t, -, hrun⟩ := run_of_no_abort expected b es s hstop hqs hraws hopen hab'
      refine ⟨_, b', es', t, hrun, fun fault => ⟨fun h => (nomatch h), ?_⟩⟩
      rintro (⟨-, -, raws', hraws', hab''⟩ | ⟨-, h⟩)
      · rw [Option.some.inj (hraws'.symm.trans hraws)] at hab''
        exact absurd hab'' hab
      · exact absurd h hwritten

/-- **Failing invocations.** On a memory publisher that opens, serving a caller fails exactly if the
argument passes the gates and a record of its batch aborts, or a gate stops on a whole number of too
many digits to write out; else it gives an outcome. Reading bytes fails exactly on text outside
ASCII, and what else is not base64 reads as absent. -/
theorem serve_fails_iff (expected : Value) (context : Context) (arg : Value) {relay : Relay Store}
    (hlog : relay.log.Keeps) (hopen : relay.publisher.openFault? = none) :
    (Shallow arg → ∀ fault, (serve publisher expected context arg relay).1 = .error fault ↔
      fault = .notAscii ∧ Aborts expected arg ∨ fault = .tooManyDigits ∧ Unwritable arg) ∧
    ∀ (image : Image) (name : String),
      (image.binary? name relay.log).1 =
        if (image.raw? name .binary).any Value.isForeign then .error .notAscii
        else .ok ((image.raw? name .binary).bind Value.bytes?) := by
  refine ⟨fun hshallow => ?_, fun image name => ?_⟩
  · obtain ⟨b, es, s, rfl⟩ := Relay.exists_keeping hlog
    obtain ⟨r, b', es', t, hrun, hr⟩ := run_fails_iff expected hshallow
      (b.bind [("correlation_id", requestId context)]) es hopen
    rw [serve_run publisher expected b es s hrun]
    exact hr
  · rw [(image.steady_binary? name).fst_eq hlog, image.binary?_result]

/-- A payload outside ASCII fails the invocation, and with it a record that is accepted. -/
theorem serve_fails_iff_second_record :
    let raws := [sample "PHgvPg==" "AQ==" "Ag==", sample "é" "AQ==" "Ag=="]
    let arg := sampleArg (.ofFields [("Records", .list raws)])
    let relay : Relay Store := ⟨Log.empty, .ofScript .empty⟩
    relay.log.Keeps ∧ relay.publisher.openFault? = none ∧
      (serve publisher (.text "aws:dynamodb") [] arg relay).1 = .error .notAscii := by
  intro raws arg relay
  have hlog : relay.log.Keeps := Log.keeps_empty
  have hqueues : ∃ qs, queuesAt arg = some qs ∧ qs ≠ [] := ⟨[.text "q"], rfl, by simp⟩
  have hraw : sample "é" "AQ==" "Ag==" ∈ raws := by simp [raws]
  have hshallow : Shallow arg := fun v hv => nomatch (show none = some v from hv)
  refine ⟨hlog, rfl, ?_⟩
  exact ((serve_fails_iff (.text "aws:dynamodb") [] arg hlog rfl).1 hshallow .notAscii).mpr
    (.inl ⟨rfl, hqueues, raws, rfl, _, hraw, by decide⟩)

/-- A payload outside ASCII does not read as absent. -/
theorem serve_foreign_payload :
    let arg := sampleArg (.ofFields [("Records", .list [sample "é" "AQ==" "Ag=="])])
    let relay : Relay Store := ⟨Log.empty, .ofScript .empty⟩
    relay.publisher.openFault? = none ∧
      (serve publisher (.text "aws:dynamodb") [] arg relay).1 = .error .notAscii :=
  ⟨rfl, rfl⟩

end

end Invocation

end StreamRelay
