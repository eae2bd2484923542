import StreamRelay.Proofs.Translation

/-!
# The closing of a batch

The tally of a batch reaches the caller through the closing of its client. Where no record aborts
and a request was made, the invocation comes to an outcome with all sends counted exactly if the
client closes without a fault (`serve_reports_sends`); a fault in closing takes the place of the
tally (`serve_loses_tally`).
-/

namespace StreamRelay.Invocation

open Sqs StreamRecord FanOut Relay

theorem status_of_reported_error {records : Nat} {fault : Fault} {outcome : Outcome}
    (h : reported records (.error fault) = .ok outcome) : outcome.status = .failed := by
  cases fault with
  | publisherUnavailable message =>
    rw [← Except.ok.inj h]; rfl
  | _ => cases h

variable (expected : Value) (context : Context) (arg : Value) (b : Context) (es : List Log.Entry)
  (region endpointUrl : Value) (script : Script)

/-- An argument that passes the gates, on a new sender whose client opens: if no record aborts, there
is a request for each accepted record and queue, the tally of the batch counts each of them once, and
the caller gets the tally unless closing the client fails. -/
theorem serve_batch (hpass : stop? arg = none) {qs raws : List Value}
    (hqs : queuesAt arg = some qs) (hraws : batchAt arg = some raws)
    (hab : ∀ raw ∈ raws, aborts raw expected = false) (hopen : script.openFault? = none) :
    ∃ bound lines rs tally,
      serve Sqs.publisher expected context arg
          (Relay.keeping b es (.new region endpointUrl script)) =
        (reported raws.length (script.ending tally),
          Relay.keeping bound lines ((Sender.new region endpointUrl script).served rs)) ∧
      rs.length = raws.countP (accepts expected) * qs.length ∧
      tally.successes + tally.failures = rs.length := by
  obtain ⟨b', fs, rs, store, hrequests, -, hrun, -⟩ := run_mirrors expected
    (b.bind [("correlation_id", requestId context)]) es hpass hqs hraws hab region endpointUrl hopen
    (length_sends_le expected hqs hraws)
  have hlength : (raws.flatMap (due qs expected)).length = rs.length := by
    simpa only [List.length_map] using congrArg List.length hrequests
  refine ⟨_, _, rs, _, serve_run Sqs.publisher expected b es _ hrun, ?_, ?_⟩
  · rw [← hlength, length_flatMap_due]
  · rw [Memory.Script.tally_total, hlength]

/-- An argument that a gate stops and a client that cannot be opened come to no request. -/
theorem serve_without_batch (h : stop? arg ≠ none ∨ script.openFault? ≠ none) :
    ∃ result bound lines a', serve Sqs.publisher expected context arg
        (Relay.keeping b es (.new region endpointUrl script)) =
      (result, Relay.keeping bound lines a') ∧ a'.session.requests = [] := by
  cases hstop : stop? arg with
  | some status =>
    obtain ⟨message, hrun⟩ := run_of_stop_any expected hstop
    exact ⟨_, _, _, _, serve_run Sqs.publisher expected b es _ (hrun _ _ _ _), rfl⟩
  | none =>
    have hne : script.openFault? ≠ none := h.resolve_left fun h => h hstop
    obtain ⟨fault, hopen⟩ := Option.ne_none_iff_exists'.mp hne
    obtain ⟨queues, records, -, -, hrun⟩ := run_of_pass_any expected hstop
    obtain ⟨fault', es', hdeliver⟩ := deliver_of_fault
      (b.bind [("correlation_id", requestId context)]) (es ++ (check arg).lines _) region
      endpointUrl hopen expected queues records
    exact ⟨_, _, _, _, serve_run Sqs.publisher expected b es _ (hrun _ _ _ _ _ _ _ _ hdeliver), rfl⟩

/-- **What was sent is reported if the client closes.** If no record that is offered makes its
decision fail and a request was made, the invocation succeeds with each request counted exactly if
the client closes without a fault. A fault in closing is what the caller gets instead. -/
theorem serve_reports_sends {log : Log} (hlog : log.Keeps)
    (hdec : stop? arg = none → ∀ raw ∈ (batchAt arg).getD [],
      ∃ d, ((ofValue raw).decision expected).result = .ok d) :
    ∃ result bound lines a',
      serve Sqs.publisher expected context arg ⟨log, .new region endpointUrl script⟩ =
        (result, Relay.keeping bound lines a') ∧
      (a'.session.requests ≠ [] →
        ((∃ outcome, result = .ok outcome ∧ outcome.status = .succeeded ∧
            outcome.tally.successes + outcome.tally.failures = a'.session.requests.length) ↔
          script.closeFault? = none) ∧
        ∀ fault, script.closeFault? = some fault →
          result = reported ((batchAt arg).getD []).length (.error fault)) := by
  obtain ⟨b, es, rfl⟩ := hlog.exists_keeping
  by_cases hbatch : stop? arg = none ∧ script.openFault? = none
  · obtain ⟨hstop, hopen⟩ := hbatch
    obtain ⟨⟨qs, hqs, -⟩, raws, hraws, -⟩ := stop?_eq_none.mp hstop
    have hab := forall_decides_iff.mp (hdec hstop)
    rw [hraws, Option.getD_some] at hab
    obtain ⟨bound, lines, rs, tally, hserve, -, htotal⟩ := serve_batch expected context arg b es
      region endpointUrl script hstop hqs hraws hab hopen
    obtain ⟨-, -, -, hrequests⟩ := (Sender.new region endpointUrl script).session_served rs
    refine ⟨_, bound, lines, _, hserve, fun _ => ?_⟩
    rw [hrequests, List.length_map, hraws, Script.ending]
    cases hclose : script.closeFault? with
    | none =>
      have hfinished : reported raws.length (.ok tally) = .ok (.finished raws.length tally) := rfl
      refine ⟨⟨fun _ => rfl, fun _ => ⟨_, hfinished, rfl, htotal⟩⟩, ?_⟩
      intro fault h
      cases h
    | some fault =>
      constructor
      · constructor
        · rintro ⟨outcome, hok, hsucceeded, -⟩
          rw [status_of_reported_error hok] at hsucceeded
          cases hsucceeded
        · intro h
          cases h
      · intro fault' h
        rw [Option.some.inj h]; rfl
  · obtain ⟨result, bound, lines, a', hserve, hnone⟩ := serve_without_batch expected context arg b
      es region endpointUrl script (Classical.not_and_iff_not_or_not.mp hbatch)
    exact ⟨result, bound, lines, a', hserve, fun hne => absurd hnone hne⟩

/-- Two records to one queue, of which the second is refused; the client closes. -/
theorem serve_reports_sends_of_two :
    let record := sample "PHgvPg==" "AQ==" "Ag=="
    let arg := sampleArg (.ofFields [("Records", .list [record, record])])
    let script : Script := ⟨[], [], [], [none, some ⟨1, some (.transport .noRegion), none⟩]⟩
    let served := serve Sqs.publisher (.text "aws:dynamodb") [] arg
      ⟨Log.empty, .new (.text "us-east-1") .null script⟩
    (Log.empty.Keeps ∧ ∀ raw ∈ (batchAt arg).getD [],
        ∃ d, ((ofValue raw).decision (.text "aws:dynamodb")).result = .ok d) ∧
      ∃ outcome, served.1 = .ok outcome ∧ outcome.status = .succeeded ∧
        outcome.tally.successes + outcome.tally.failures = 2 := by
  intro record arg script served
  have hab : ∀ raw ∈ [record, record], aborts raw (.text "aws:dynamodb") = false := by decide
  have hdec : ∀ raw ∈ [record, record],
      ∃ d, ((ofValue raw).decision (.text "aws:dynamodb")).result = .ok d :=
    forall_decides_iff.mpr hab
  obtain ⟨result, bound, lines, a', hserve, hreports⟩ := serve_reports_sends (.text "aws:dynamodb")
    [] arg (.text "us-east-1") .null script Log.keeps_empty fun _ => hdec
  have hlength : a'.session.requests.length = 2 := by
    obtain ⟨bound', lines', rs, tally, hserve', hrs, -⟩ := serve_batch (.text "aws:dynamodb")
      [] arg [] [] (.text "us-east-1") .null script rfl rfl rfl hab rfl
    have ha' : a' = (Sender.new (.text "us-east-1") .null script).served rs :=
      congrArg (fun x => x.2.publisher) (hserve.symm.trans hserve')
    rw [ha', (Sender.session_served _ rs).2.2.2, List.length_map, hrs]
    decide
  have hne : a'.session.requests ≠ [] := List.ne_nil_of_length_pos (by omega)
  obtain ⟨outcome, hok, hsucceeded, htotal⟩ := (hreports hne).1.mpr rfl
  rw [hlength] at htotal
  rw [show served = _ from hserve]
  exact ⟨⟨Log.keeps_empty, hdec⟩, outcome, hok, hsucceeded, htotal⟩

/-- A request that was made and answered goes unreported: the client fails to close, and the caller
gets that fault instead of an outcome. -/
theorem serve_loses_tally :
    let record := sample "PHgvPg==" "AQ==" "Ag=="
    let arg := sampleArg (.ofFields [("Records", .list [record])])
    let fault : Fault := .transport (.endpointConnection "https://sqs.us-east-1.amazonaws.com")
    let script : Script := ⟨[], [], [some fault], []⟩
    let served := serve Sqs.publisher (.text "aws:dynamodb") [] arg
      ⟨Log.empty, .new (.text "us-east-1") .null script⟩
    (∃ d, ((ofValue record).decision (.text "aws:dynamodb")).result = .ok d) ∧
      served.2.publisher.session.requests.length = 1 ∧ served.1 = .error fault := by
  intro record arg fault script served
  have hab : aborts record (.text "aws:dynamodb") = false := by decide
  obtain ⟨bound, lines, rs, tally, hserve, hrs, -⟩ := serve_batch (.text "aws:dynamodb")
    [] arg [] [] (.text "us-east-1") .null script rfl rfl rfl (by simpa using hab) rfl
  rw [show served = _ from hserve]
  refine ⟨decides_iff.mpr hab, ?_, rfl⟩
  show ((Sender.new (.text "us-east-1") .null script).served rs).session.requests.length = 1
  rw [(Sender.session_served _ rs).2.2.2, List.length_map, hrs]
  decide

end StreamRelay.Invocation
