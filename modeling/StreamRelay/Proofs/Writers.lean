import StreamRelay.Invocation
import StreamRelay.Proofs.Offering

/-!
# Who writes to the log

An entry names the part of the program that wrote it. Checking an argument, offering records, and
reporting sends and outcomes add lines under the names in `Log.core` and under no other
(`check_core`, `logger_mem_offering`, `report_core`), so the lines of a publisher that writes under a
name of its own can be told apart. All lines are written under the names bound at present, and none
has a field of a name that is bound around others (`Log.Entry.Under`). A log that refuses a line can
end such a computation, but not make it give anything else (`WrittenBy.agrees`).
-/

namespace StreamRelay

variable {α β : Type}

/-- The names of the parts of the program that are not publishers. -/
def Log.core : List String :=
  [Image.logger, Decision.logger, Task.logger, Gate.logger, Invocation.logger,
    Invocation.entryLogger]

/-- The names that are bound around lines: that of a request, and those of a record. -/
def Log.bindable : List String := ["correlation_id", "event_id", "event_name"]

/-- A line written under the given names, with no field of a name that is bound around lines. -/
structure Log.Entry.Under (b : Context) (e : Log.Entry) : Prop where
  bound : e.bound = b
  fields : ∀ name ∈ e.fields.names, name ∉ Log.bindable

namespace Logged

/-- All that a computation does to a log is to add lines, which the given parts of the program write
under the names bound at present; and what it gives on any log, it gives on all logs that keep their
entries. -/
structure WrittenBy (parts : List String) (x : Logged α) : Prop where
  adds (log : Log) : ∃ es, (x log).2 = { log with entries := log.entries ++ es } ∧
    ∀ e ∈ es, e.logger ∈ parts ∧ e.Under log.bound
  agrees {log log' : Log} {a : α} : (x log).1 = .ok a → log'.Keeps → (x log').1 = .ok a

section

variable {parts : List String}

theorem writtenBy_pure (a : α) : (pure a : Logged α).WrittenBy parts where
  adds log := ⟨[], by rw [List.append_nil]; rfl, fun _ he => by cases he⟩
  agrees h _ := h

theorem writtenBy_throw (fault : Fault) : (throw fault : Logged α).WrittenBy parts where
  adds log := ⟨[], by rw [List.append_nil]; rfl, fun _ he => by cases he⟩
  agrees h := by cases h

theorem writtenBy_write {logger : String} (h : logger ∈ parts) (level : Log.Level)
    (event : String) {fields : Context}
    (hfields : (fields.names.all fun name => !Log.bindable.contains name) = true) :
    (Log.write logger level event fields).WrittenBy parts where
  adds log := by
    simp only [Log.write]
    split
    · exact ⟨[], by rw [List.append_nil], fun _ he => by cases he⟩
    · refine ⟨_, rfl, fun e he => ?_⟩
      rw [List.mem_singleton.mp he]
      refine ⟨h, rfl, fun name hname => ?_⟩
      simpa using List.all_eq_true.mp hfields name hname
  agrees _ hkeeps := by rw [Log.write_of_keeps hkeeps]

theorem WrittenBy.bind {x : Logged α} {f : α → Logged β} (hx : x.WrittenBy parts)
    (hf : ∀ a, (f a).WrittenBy parts) : (x >>= f).WrittenBy parts where
  adds log := by
    obtain ⟨es, hes, hmem⟩ := hx.adds log
    rw [except_bind_at]
    rcases hrun : x log with ⟨_ | a, log'⟩
    · rw [hrun] at hes
      exact ⟨es, hes, hmem⟩
    · rw [hrun] at hes
      obtain rfl : log' = { log with entries := log.entries ++ es } := hes
      obtain ⟨fs, hfs, hmem'⟩ := (hf a).adds { log with entries := log.entries ++ es }
      refine ⟨es ++ fs, ?_, fun e he => (List.mem_append.mp he).elim (hmem e) (hmem' e)⟩
      show (f a { log with entries := log.entries ++ es }).2 = _
      rw [hfs]
      simp only [List.append_assoc]
  agrees {log log'} b h hkeeps := by
    rw [except_bind_at] at h ⊢
    rcases hrun : x log with ⟨_ | a, l⟩
    · rw [hrun] at h
      cases h
    · rw [hrun] at h
      have ha : (x log').1 = .ok a := hx.agrees (by rw [hrun]) hkeeps
      obtain ⟨es, hes, -⟩ := hx.adds log'
      rcases hrun' : x log' with ⟨r, l'⟩
      rw [hrun'] at ha hes
      obtain rfl : r = .ok a := ha
      obtain rfl : l' = { log' with entries := log'.entries ++ es } := hes
      exact (hf a).agrees h hkeeps

theorem writtenBy_line {logger : String} (h : logger ∈ parts) (level : Log.Level)
    (event : String) {fields : Context}
    (hfields : (fields.names.all fun name => !Log.bindable.contains name) = true) (a : α) :
    (do Log.write logger level event fields; return a : Logged α).WrittenBy parts :=
  (writtenBy_write h level event hfields).bind fun _ => writtenBy_pure a

end

def Core (x : Logged α) : Prop := x.WrittenBy Log.core

theorem Core.logger_mem {x : Logged α} (hx : x.Core) (b : Context) :
    ∀ e ∈ x.lines b, e.logger ∈ Log.core := by
  obtain ⟨es, hes, hmem⟩ := hx.adds (Log.keeping b [])
  intro e he
  rw [lines, hes] at he
  exact (hmem e he).1

theorem logger_mem_linesAfter {f : α → Logged β} (hf : ∀ a, (f a).Core) (b : Context) :
    ∀ r : Except Fault α, ∀ e ∈ linesAfter f b r, e.logger ∈ Log.core
  | .error _, _, he => nomatch he
  | .ok a, e, he => (hf a).logger_mem b e he

theorem core_pure (a : α) : (pure a : Logged α).Core := writtenBy_pure a

theorem core_throw (fault : Fault) : (throw fault : Logged α).Core := writtenBy_throw fault

theorem core_except (x : Except Fault α) : (liftM x : Logged α).Core := by
  cases x with
  | ok a => exact core_pure a
  | error fault => exact core_throw fault

theorem Core.bind {x : Logged α} {f : α → Logged β} (hx : x.Core) (hf : ∀ a, (f a).Core) :
    (x >>= f).Core := WrittenBy.bind hx hf

end Logged

open Logged

/-! ### Records -/

namespace Image

variable (i : Image)

theorem binary?_core (name : String) : (i.binary? name).Core := by
  unfold binary?
  cases i.raw? name .binary with
  | none => exact core_pure _
  | some raw =>
    simp only []
    split
    · exact core_pure _
    · exact writtenBy_line (by decide) _ _ rfl _
    · exact core_throw _

theorem get?_core (name : String) (tag : Tag) : (i.get? name tag).Core := by
  cases tag with
  | binary => exact (i.binary?_core name).bind fun _ => core_pure _
  | _ => exact core_pure _

theorem absentAmong_core : ∀ fields : List (String × Tag), (i.absentAmong fields).Core
  | [] => core_pure _
  | (name, tag) :: fields => by
    refine (i.get?_core name tag).bind fun value => ?_
    cases value with
    | some _ => exact absentAmong_core fields
    | none =>
      refine (writtenBy_write (by decide) _ _ rfl).bind fun _ => ?_
      exact (absentAmong_core fields).bind fun _ => core_pure _

theorem messagesTo_core (queues : List Value) : (i.messagesTo queues).Core := by
  have hcontent : i.content.Core :=
    (i.binary?_core _).bind fun _ => (i.get?_core _ _).bind fun _ =>
      (i.get?_core _ _).bind fun _ => core_pure _
  exact hcontent.bind fun _ => core_pure _

end Image

namespace StreamRecord

variable (r : StreamRecord)

theorem skip_core (reason : SkipReason) (level : Log.Level) (event : String) {fields : Context}
    (hfields : (fields.names.all fun name => !Log.bindable.contains name) = true) :
    (skip reason level event fields).Core :=
  writtenBy_line (by decide) _ _ hfields _

theorem checkSum_core (image : Image) : (r.checkSum image).Core := by
  have hold : r.oldChecksum?.Core := by
    unfold oldChecksum?
    cases r.oldImage with
    | none => exact core_pure _
    | some old => exact old.binary?_core _
  refine (image.binary?_core _).bind fun sum => ?_
  cases sum with
  | none => exact skip_core _ _ _ rfl
  | some sum =>
    refine hold.bind fun before => ?_
    split
    · exact skip_core _ _ _ rfl
    · exact core_pure _

theorem decision_core (expected : Value) : (r.decision expected).Core := by
  unfold decision
  split
  · cases r.newImage with
    | none => exact skip_core _ _ _ rfl
    | some image =>
      refine (image.absentAmong_core _).bind fun missing => ?_
      split
      · exact r.checkSum_core image
      · exact skip_core _ _ _ rfl
  · exact skip_core _ _ _ rfl

end StreamRecord

namespace FanOut

variable (queues expected : Value)

theorem messages_core (record : StreamRecord) : (messages queues expected record).Core := by
  refine (writtenBy_write (by decide) _ _ rfl).bind fun _ => ?_
  refine (record.decision_core expected).bind fun d => ?_
  unfold messagesOf
  cases d with
  | skipped reason => exact core_pure _
  | accepted image =>
    cases queues.items? with
    | none => exact core_throw _
    | some qs => exact (writtenBy_write (by decide) _ _ rfl).bind fun _ => image.messagesTo_core qs

theorem logger_mem_offering : ∀ (raws : List Value) (b : Context),
    ∀ e ∈ (offering queues expected b raws).lines, e.logger ∈ Log.core
  | [], _, e, he => by cases he
  | raw :: raws, b, e, he => by
    have hfirst := (messages_core queues expected (StreamRecord.ofValue raw)).logger_mem
      (namesFor b raw)
    rw [offering] at he
    split at he
    · exact hfirst e he
    · exact (List.mem_append.mp he).elim (hfirst e) (logger_mem_offering raws (namesAfter b raw) e)

end FanOut

/-! ### Reports -/

theorem Task.report_core (queue : Value) (result : Except Fault Receipt) :
    (report queue result).Core := by
  cases result with
  | error fault => exact writtenBy_line (by decide) _ _ rfl _
  | ok receipt =>
    simp only [report]
    split
    · exact writtenBy_line (by decide) _ _ rfl _
    · exact writtenBy_line (by decide) _ _ rfl _

theorem Gate.queues_core (v : Value) : (Gate.queues v).Core := by
  unfold Gate.queues
  split
  · exact writtenBy_line (by decide) _ _ rfl _
  · exact (writtenBy_write (by decide) _ _ rfl).bind fun _ =>
      (core_except _).bind fun _ => core_pure _
  · exact writtenBy_line (by decide) _ _ rfl _
  · exact core_pure _

theorem Gate.event_core (v : Value) : (Gate.event v).Core := by
  unfold Gate.event
  split
  · exact writtenBy_line (by decide) _ _ rfl _
  · exact (writtenBy_write (by decide) _ _ rfl).bind fun _ =>
      (core_except _).bind fun _ => core_pure _
  · exact writtenBy_line (by decide) _ _ rfl _
  · exact core_pure _

namespace Invocation

theorem behind_core {next : Logged (Except Outcome α)} (h : next.Core) (outcome? : Option Outcome) :
    (behind next outcome?).Core := by
  cases outcome? with
  | some outcome => exact core_pure _
  | none => exact h

theorem check_core (arg : Value) : (check arg).Core :=
  (Gate.queues_core _).bind (behind_core
    ((Gate.event_core _).bind (behind_core (core_pure _))))

theorem report_core (records : Nat) (result : Except Fault Tally) :
    (report records result).Core := by
  unfold report
  split
  · exact writtenBy_line (by decide) _ _ rfl _
  · exact core_throw _
  · exact writtenBy_line (by decide) _ _ rfl _

theorem announce_core (outcome : Outcome) : (announce outcome).Core := by
  unfold announce
  split
  · exact writtenBy_write (by decide) _ _ rfl
  · exact writtenBy_write (by decide) _ _ rfl

end Invocation

end StreamRelay
