import Mathlib.Data.List.Forall2
import StreamRelay.Proofs.Segments
import StreamRelay.Proofs.Timing

/-!
# The log as an audit trail

A run on the memory publisher in which every record is decided on writes the segments of its records,
in order (`offering_segments`), and behind them one line for each send, in the order in which the
sends settle (`Job.lines_eq`). So the tally that the run gives can be read off the log: the successes
are the lines that a message was sent, and the failures are the other reports (`run_audited`).
-/

namespace StreamRelay

open StreamRecord FanOut

/-! ### Segments of an offering -/

/-- An offering of records that are decided on writes a segment for each, in order. -/
theorem FanOut.offering_segments {queues expected : Value} {qs : List Value}
    (hq : queues.members? = some qs) : ∀ {raws : List Value} (b : Context),
    (∀ raw ∈ raws, ∃ d, ((ofValue raw).decision expected).result = .ok d) →
      ∃ segments : List (List Log.Entry),
        List.Forall₂ (SegmentOf expected qs.length) raws segments ∧
          (offering queues expected b raws).lines = segments.flatten
  | [], b, _ => ⟨[], .nil, rfl⟩
  | raw :: raws, b, h => by
    obtain ⟨⟨d, hd⟩, hrest⟩ := List.forall_mem_cons.mp h
    obtain ⟨segments, hsegments, hlines⟩ := offering_segments hq (namesAfter b raw) hrest
    refine ⟨_ :: segments, .cons (messages_segment hq hd (namesFor b raw)) hsegments, ?_⟩
    rw [offering, messages_result hq, not_aborts_of_ok hd, List.flatten_cons, ← hlines]
    rfl

/-! ### Reports of sends -/

namespace Log.Entry

def isSuccess (e : Log.Entry) : Bool := e.event = "Message sent"

def isFailure (e : Log.Entry) : Bool := e.event = "Message send failed" || e.event = "Dispatch raised"

def isReport (e : Log.Entry) : Bool := e.isSuccess || e.isFailure

end Log.Entry

namespace Task

/-- The line that reports the end of a send to a queue. -/
def reportLine (b : Context) (queue : Value) : Except Fault Receipt → Log.Entry
  | .error fault => ⟨.warning, logger, "Dispatch raised",
      [("queue", queue), ("error", .text fault.message)], b⟩
  | .ok receipt =>
    if receipt.success.isTruthy then
      ⟨.info, logger, "Message sent", [("queue", queue), ("message_id", receipt.externalId)], b⟩
    else
      ⟨.warning, logger, "Message send failed", [("queue", queue), ("error", receipt.error)], b⟩

theorem report_lines (queue : Value) (result : Except Fault Receipt) (b : Context) :
    (report queue result).lines b = [reportLine b queue result] := by
  cases result with
  | error fault => rfl
  | ok receipt =>
    simp only [report, reportLine]
    cases receipt.success.isTruthy <;> rfl

theorem reportLine_counts (b : Context) (queue : Value) (result : Except Fault Receipt) :
    (reportLine b queue result).isSuccess = succeeded result ∧
      (reportLine b queue result).isFailure = !succeeded result := by
  cases result with
  | error fault => exact ⟨rfl, rfl⟩
  | ok receipt =>
    simp only [reportLine, succeeded]
    cases receipt.success.isTruthy <;> exact ⟨rfl, rfl⟩

end Task

theorem Remarks.not_report {b : Context} {missing : List String} {es : List Log.Entry}
    (h : Remarks b missing es) : ∀ e ∈ es, e.isReport = false := by
  induction h with
  | nil => exact fun _ he => by cases he
  | unreadable name reason _ ih => exact List.forall_mem_cons.mpr ⟨rfl, ih⟩
  | missing name _ ih => exact List.forall_mem_cons.mpr ⟨rfl, ih⟩

theorem StreamRecord.Segment.not_report {expected : Value} {queues : Nat} {r : StreamRecord}
    {b : Context} {d : Decision} {missing : List String} {es : List Log.Entry}
    (h : Segment expected queues r b d missing es) : ∀ e ∈ es, e.isReport = false := by
  obtain ⟨remarks, hremarks, rfl⟩ := h.lines
  have hlast : (r.lastLine expected queues missing b d).isReport = false := by
    cases d with
    | accepted image => rfl
    | skipped reason => cases reason <;> rfl
  intro e he
  obtain he | he := List.mem_append.mp he
  · obtain rfl | he := List.mem_cons.mp he
    · rfl
    · exact hremarks.not_report e he
  · rwa [List.mem_singleton.mp he]

theorem StreamRecord.countP_segments {expected : Value} {queues : Nat} {raws : List Value}
    {segments : List (List Log.Entry)}
    (h : List.Forall₂ (SegmentOf expected queues) raws segments)
    (reports : List Log.Entry) :
    (segments.flatten ++ reports).countP (·.isSuccess) = reports.countP (·.isSuccess) ∧
      (segments.flatten ++ reports).countP (·.isFailure) = reports.countP (·.isFailure) := by
  have hnone : ∀ e ∈ segments.flatten, e.isSuccess = false ∧ e.isFailure = false := by
    induction h with
    | nil => exact fun _ he => by cases he
    | cons hfirst _ ih =>
      obtain ⟨b, d, missing, hsegment⟩ := hfirst
      rw [List.flatten_cons, List.forall_mem_append]
      exact ⟨fun e he => Bool.or_eq_false_iff.mp (hsegment.not_report e he), ih⟩
  have hsuccess : segments.flatten.countP (·.isSuccess) = 0 :=
    List.countP_eq_zero.mpr fun e he => by simp [hnone e he]
  have hfailure : segments.flatten.countP (·.isFailure) = 0 :=
    List.countP_eq_zero.mpr fun e he => by simp [hnone e he]
  rw [List.countP_append, List.countP_append, hsuccess, hfailure]
  exact ⟨Nat.zero_add _, Nat.zero_add _⟩

namespace Memory

/-- The answer of the script to the send of a message with the given number. -/
def Script.answer (script : Script) (send : Message × Nat) : Except Fault Receipt :=
  (⟨send.2, send.1.destination, script.step send.1.destination send.2⟩ : Pending).answer

theorem Script.succeeds_eq (script : Script) (send : Message × Nat) :
    script.succeeds send = Task.succeeded (script.answer send) := by
  simp only [succeeds, answer, Pending.answer]
  cases (script.step send.1.destination send.2).fault <;> rfl

def Job.reportLine (script : Script) (j : Job) : Log.Entry :=
  Task.reportLine j.bound j.message.destination (script.answer j.send)

theorem Job.lines_eq {script : Script} {ms : List (Context × Message)} {n : Nat} {j : Job}
    (h : j ∈ jobsFrom script n ms) : j.lines = [j.reportLine script] := by
  have hanswer : j.pending.answer = script.answer j.send := by
    rw [pending, step_of_mem_jobsFrom h]
    rfl
  rw [lines, Task.reportLines, Task.report_lines, hanswer]
  rfl

theorem Job.flatMap_lines {script : Script} {ms : List (Context × Message)} {n : Nat}
    {js : List Job} (h : ∀ j ∈ js, j ∈ jobsFrom script n ms) :
    js.flatMap lines = js.map (reportLine script) := by
  rw [List.map_eq_flatMap]
  exact List.flatMap_congr fun j hj => lines_eq (h j hj)

/-- The tally of a batch, by its reports. -/
theorem Job.tally_reports (script : Script) (n : Nat) (ms : List (Context × Message)) :
    let reports := (schedule (jobsFrom script n ms)).map (reportLine script)
    script.tally n (ms.map Prod.snd) =
      ⟨reports.countP (·.isSuccess), reports.countP (·.isFailure)⟩ := by
  intro reports
  have hcount (p : Log.Entry → Bool) (q : Message × Nat → Bool)
      (h : ∀ j : Job, p (j.reportLine script) = q j.send) :
      ((ms.map Prod.snd).zipIdx n).countP q = reports.countP p := by
    rw [← (sends_schedule script n ms).1.countP_eq, List.countP_map, List.countP_map]
    exact List.countP_congr fun j _ => by rw [Function.comp, Function.comp, h]
  have hreport (j : Job) := Task.reportLine_counts j.bound j.message.destination
    (script.answer j.send)
  simp only [← script.succeeds_eq] at hreport
  rw [Script.tally, hcount _ _ fun j => (hreport j).1,
    hcount _ (fun send => !script.succeeds send) fun j => (hreport j).2]

/-! ### Runs -/

/-- **The log of a run is an audit trail.** A run in which no decision fails adds to the log, for
each record in order, a segment that ends with what was decided on it, and then, for each send in the
order of settling, one line that says how it ended; and nothing else. The tally that it gives counts
these reports. -/
theorem run_audited {queues records expected : Value} {qs raws : List Value}
    {relay : Relay Store} (hlog : relay.log.Keeps) (hopen : relay.publisher.openFault? = none)
    (hqs : queues.members? = some qs) (hraws : records.members? = some raws)
    (hdec : ∀ raw ∈ raws, ∃ d, ((ofValue raw).decision expected).result = .ok d) :
    let s := relay.publisher
    let sends := raws.flatMap (due qs expected)
    let run := FanOut.run publisher expected queues records relay
    ∃ (segments : List (List Log.Entry)) (order : List (Message × Nat)) (reports : List Log.Entry),
      List.Forall₂ (SegmentOf expected qs.length) raws segments ∧
      order.Perm (sends.zipIdx s.sent.length) ∧ order.Pairwise s.script.Sooner ∧
      run.2.publisher.settled = s.settled ++ order.map Prod.snd ∧
      List.Forall₂ (fun send e =>
        ∃ b, e = Task.reportLine b send.1.destination (s.script.answer send)) order reports ∧
      let written := segments.flatten ++ reports
      run.2.log.entries = relay.log.entries ++ written ∧
        run.1 = .ok ⟨written.countP (·.isSuccess), written.countP (·.isFailure)⟩ := by
  obtain ⟨b, es, s, rfl⟩ := Relay.exists_keeping hlog
  intro s' sends run
  have hab := forall_decides_iff.mp hdec
  obtain ⟨segments, hsegments, hlines⟩ := offering_segments hqs b hdec
  have hmessages := (offering_of_no_abort hqs expected hab b).2
  have hrun : run = _ := run_of_no_abort publisher.leave b es s expected queues hraws hopen hqs hab
  obtain ⟨o, ho⟩ : ∃ o, o = offering queues expected b raws := ⟨_, rfl⟩
  simp only [settled, ← ho, leave_run] at hrun hmessages hlines
  obtain ⟨js, hjs⟩ : ∃ js, js = Job.schedule (jobsFrom s.script s.sent.length o.messages) :=
    ⟨_, rfl⟩
  obtain ⟨hperm, hsorted⟩ := Job.sends_schedule s.script s.sent.length o.messages
  have hserving := s.enter.serving_served (jobsFrom s.script s.sent.length o.messages)
  have hreports : js.flatMap Job.lines = js.map (Job.reportLine s.script) :=
    Job.flatMap_lines fun j hj => (Job.schedule_perm _).mem_iff.mp (hjs ▸ hj)
  obtain ⟨hsuccesses, hfailures⟩ :=
    countP_segments hsegments (js.map (Job.reportLine s.script))
  refine ⟨segments, js.map Job.send, js.map (Job.reportLine s.script), hsegments, ?_, ?_, ?_, ?_,
    ?_, ?_⟩
  · rw [hmessages] at hperm
    exact hjs ▸ hperm
  · exact hjs ▸ hsorted
  · rw [show run = _ from hrun, List.map_map, hjs]
    exact hserving.settled
  · rw [List.forall₂_map_left_iff, List.forall₂_map_right_iff, List.forall₂_same]
    exact fun j _ => ⟨j.bound, rfl⟩
  · rw [show run = _ from hrun, hlines, ← hjs, hreports]
    exact List.append_assoc ..
  · rw [show run = _ from hrun, hsuccesses, hfailures, ← hmessages, Job.tally_reports, hjs]

/-- An accepted record, one whose payload is not base64 and whose identifier is missing, and an
unchanged one, for two queues, of which the first answers later and the second raises. -/
theorem run_audited_missing_fields :
    let lacking : Value := .ofFields [("eventSource", .text "aws:dynamodb"), ("dynamodb", .ofFields
      [("NewImage", .ofFields [("XML", .ofFields [("B", .text "?")]),
        ("BaseUrl", .ofFields [("S", .text "https://a.example")])])])]
    let raws := [sample "PHgvPg==" "AQ==" "Ag==", lacking, sample "PHgvPg==" "AQ==" "AQ=="]
    let qs : List Value := [.text "q1", .text "q2"]
    let late : Step := ⟨2, none, .int 1, none, .null⟩
    let raising : Step := ⟨0, some (.timeout "late"), .null, none, .null⟩
    let script : Script := ⟨[], [("q1", late), ("q2", raising)], []⟩
    let relay : Relay Store := ⟨Log.empty, .ofScript script⟩
    let run := FanOut.run publisher (.text "aws:dynamodb") (.tuple qs) (.list raws) relay
    (relay.log.Keeps ∧ relay.publisher.openFault? = none ∧
      ∀ raw ∈ raws, ∃ d, ((ofValue raw).decision (.text "aws:dynamodb")).result = .ok d) ∧
    ∃ (segments : List (List Log.Entry)) (reports : List Log.Entry),
      segments.length = 3 ∧ reports.length = 2 ∧
      run.2.log.entries = segments.flatten ++ reports := by
  intro lacking raws qs late raising script relay run
  have hab : ∀ raw ∈ raws, aborts raw (.text "aws:dynamodb") = false := by decide
  have hdec : ∀ raw ∈ raws, ∃ d,
      ((ofValue raw).decision (.text "aws:dynamodb")).result = .ok d := forall_decides_iff.mpr hab
  obtain ⟨segments, order, reports, hsegments, hperm, -, -, hreports, hentries, -⟩ :=
    run_audited (show relay.log.Keeps from Log.keeps_empty) rfl
      (show (Value.tuple qs).members? = some qs from rfl)
      (show (Value.list raws).members? = some raws from rfl) hdec
  have hlength : order.length = 2 := by
    rw [hperm.length_eq, List.length_zipIdx, length_flatMap_due]
    decide
  rw [show relay.log.entries = [] from rfl, List.nil_append] at hentries
  refine ⟨⟨Log.keeps_empty, rfl, hdec⟩, segments, reports, hsegments.length_eq.symm,
    hreports.length_eq.symm.trans hlength, ?_⟩
  -- The run is taken as it stands: unfolded, it would be evaluated.
  with_reducible exact hentries

end Memory

end StreamRelay
