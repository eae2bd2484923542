import StreamRelay.Publisher.Memory
import StreamRelay.Publisher.Sqs
import StreamRelay.Proofs.Writers

/-!
# Names bound around lines

All that the parts of the program do to a log is to add lines under the names bound at present
(`Relay.Adds`, with one rule for each way in which computations are put together), so where names are
bound around a computation and taken back, its lines are exactly those with these names
(`Adds.under`). Both publishers keep to that (`Memory.publisher_adds`, `Sqs.publisher_adds`).
-/

namespace StreamRelay

variable {σ π α β : Type}

namespace Relay

/-- The log was added to under the given names, and is else the same. -/
def Grows (names : Context) (log log' : Log) : Prop :=
  ∃ es, log' = { log with entries := log.entries ++ es } ∧ ∀ e ∈ es, Log.Entry.Under names e

theorem grows_refl (names : Context) (log : Log) : Grows names log log :=
  ⟨[], by rw [List.append_nil], fun _ he => by cases he⟩

theorem Grows.trans {names : Context} {log log' log'' : Log} (h : Grows names log log')
    (h' : Grows names log' log'') : Grows names log log'' := by
  obtain ⟨es, rfl, hes⟩ := h
  obtain ⟨fs, rfl, hfs⟩ := h'
  exact ⟨es ++ fs, by rw [List.append_assoc],
    fun e he => (List.mem_append.mp he).elim (hes e) (hfs e)⟩

theorem Grows.bound_eq {names : Context} {log log' : Log} (h : Grows names log log') :
    log'.bound = log.bound := by
  obtain ⟨es, rfl, -⟩ := h
  rfl

/-- All that a computation does to the log is to add lines under the names bound at present. -/
def Adds (x : StateM (Relay σ) α) : Prop := ∀ r, Grows r.log.bound r.log (x r).2.log

theorem adds_pure (a : α) : Adds (pure a : StateM (Relay σ) α) := fun r => grows_refl _ r.log

theorem Adds.bind {x : StateM (Relay σ) α} {f : α → StateM (Relay σ) β} (hx : Adds x)
    (hf : ∀ a, Adds (f a)) : Adds (x >>= f) := by
  intro r
  have hfirst := hx r
  have hrest := hf (x r).1 (x r).2
  rw [hfirst.bound_eq] at hrest
  exact hfirst.trans hrest

theorem adds_onLog {parts : List String} {x : Logged α} (hx : x.WrittenBy parts) :
    Adds (onLog x.run : StateM (Relay σ) (Except Fault α)) := by
  intro r
  obtain ⟨es, hes, hmem⟩ := hx.adds r.log
  exact ⟨es, hes, fun e he => (hmem e he).2⟩

/-- Under names of its own, a computation adds lines with these names. -/
theorem Adds.under {x : StateM (Relay σ) α} (hx : Adds x) (names : Context) (r : Relay σ) :
    Grows names r.log (Relay.under names x r).2.log := by
  obtain ⟨es, hes, hmem⟩ := hx { r with log := { r.log with bound := names } }
  refine ⟨es, ?_, hmem⟩
  show ({ (x { r with log := { r.log with bound := names } }).2.log with
    bound := r.log.bound } : Log) = _
  rw [hes]

/-! ### Actions -/

theorem Adds.bind_action {x : Action σ α} {f : α → Action σ β} (hx : Adds x)
    (hf : ∀ a, Adds (f a)) : Adds (x >>= f : Action σ β) := by
  intro r
  have hfirst := hx r
  rw [except_bind_at]
  rcases hxr : x r with ⟨_ | a, r'⟩
  · rw [hxr] at hfirst
    exact hfirst
  · rw [hxr] at hfirst
    have hrest := hf a r'
    rw [hfirst.bound_eq] at hrest
    exact hfirst.trans hrest

theorem adds_of_log_eq {x : Action σ α} (h : ∀ r, (x r).2.log = r.log) : Adds x := by
  intro r
  rw [h r]
  exact grows_refl _ r.log

theorem adds_publisher : Adds (Action.publisher : Action σ σ) := adds_of_log_eq fun _ => rfl

theorem adds_setPublisher (s : σ) : Adds (Action.setPublisher s) := adds_of_log_eq fun _ => rfl

theorem adds_except (result : Except Fault α) : Adds (liftM result : Action σ α) :=
  adds_of_log_eq fun _ => by cases result <;> rfl

theorem Adds.andFinally {x : Action σ α} {y : Action σ Unit} (hx : Adds x) (hy : Adds y) :
    Adds (x.andFinally y) := by
  intro r
  have hfirst := hx r
  have hsecond := hy (x r).2
  rw [hfirst.bound_eq] at hsecond
  have hboth := hfirst.trans hsecond
  unfold Action.andFinally
  rcases hxr : x r with ⟨result, r'⟩
  rw [hxr] at hboth
  rcases hyr : y r' with ⟨_ | _, r''⟩
  · rw [hyr] at hboth; simpa only [hyr] using hboth
  · rw [hyr] at hboth; simpa only [hyr] using hboth

theorem Adds.onFault {x : Action σ α} {y : Action σ Unit} (hx : Adds x) (hy : Adds y) :
    Adds (x.onFault y) := by
  intro r
  have hfirst := hx r
  unfold Action.onFault
  rcases hxr : x r with ⟨fault | a, r'⟩
  · rw [hxr] at hfirst
    have hthrow : Adds (throw fault : Action σ α) := adds_of_log_eq fun _ => rfl
    have hrest := hthrow.andFinally hy r'
    rw [hfirst.bound_eq] at hrest
    exact hfirst.trans hrest
  · rw [hxr] at hfirst
    exact hfirst

end Relay

open Relay

/-! ### Publishers -/

/-- All that a publisher does to the log is to add lines under the names bound at present. -/
structure Publisher.Adds (p : Publisher σ π) : Prop where
  enter : Relay.Adds p.enter
  leave : Relay.Adds p.leave
  begin (m : Message) : Relay.Adds (p.begin m)
  finish (pending : π) : Relay.Adds (p.finish pending)
  abandon (pending : π) : Relay.Adds (p.abandon pending)

theorem Memory.publisher_adds : Memory.publisher.Adds where
  enter := by
    refine adds_publisher.bind_action fun s => (adds_setPublisher _).bind_action fun _ => ?_
    split
    · exact adds_of_log_eq fun _ => rfl
    · exact adds_pure _
  leave := adds_publisher.bind_action fun s => adds_setPublisher _
  begin m := adds_publisher.bind_action fun s => (adds_setPublisher _).bind_action fun _ =>
    adds_pure _
  finish pending := adds_publisher.bind_action fun s => (adds_setPublisher _).bind_action fun _ =>
    adds_except _
  abandon pending := adds_publisher.bind_action fun s => adds_setPublisher _

namespace Sqs

theorem leave_adds : Relay.Adds leave := by
  refine adds_publisher.bind_action fun a => (adds_setPublisher _).bind_action fun _ => ?_
  split
  · exact adds_of_log_eq fun _ => rfl
  · exact adds_pure _

/-- Opening a client writes a line if it fails. -/
theorem occupy_adds : Relay.Adds occupy := by
  refine adds_publisher.bind_action fun a => Adds.bind_action (adds_of_log_eq fun _ => rfl)
    fun result => ?_
  cases result with
  | ok n =>
    exact adds_publisher.bind_action fun _ => (adds_setPublisher _).bind_action fun _ => adds_pure _
  | error fault =>
    simp only []
    split
    · have hline : Relay.Adds (Action.ofLogged (Log.write logger .error "Cannot open SQS client"
          [("region", a.region), ("endpoint_url", a.endpointUrl),
            ("error", .text fault.message)]) : Action Sender Unit) :=
        adds_onLog (Logged.writtenBy_write (List.mem_singleton.mpr rfl) _ _ rfl)
      exact hline.bind_action fun _ => adds_of_log_eq fun _ => rfl
    · exact adds_of_log_eq fun _ => rfl

theorem ask_adds (m : Message) (client : Nat) (own : Bool) : Relay.Adds (ask m client own) :=
  (adds_except _).bind_action fun _ => adds_publisher.bind_action fun _ =>
    (adds_setPublisher _).bind_action fun _ => adds_pure _

theorem receipt_writtenBy (pending : Pending) : (receipt pending).WrittenBy [logger] := by
  have haccept (id : Value) : (accept pending id).WrittenBy [logger] :=
    Logged.writtenBy_line (by decide) _ _ rfl _
  unfold receipt
  split
  · split
    · exact Logged.writtenBy_line (by decide) _ _ rfl _
    · exact Logged.writtenBy_throw _
  · split
    · exact haccept _
    · exact Logged.writtenBy_throw _
    · exact haccept _

theorem publisher_adds : publisher.Adds where
  enter := occupy_adds.bind_action fun _ => adds_pure _
  leave := leave_adds
  begin m := by
    refine adds_publisher.bind_action fun a => ?_
    split
    · exact ask_adds m _ false
    · exact occupy_adds.bind_action fun n => (ask_adds m n true).onFault leave_adds
  finish pending := by
    have hreceipt : Relay.Adds (Action.ofLogged (receipt pending) : Action Sender Receipt) :=
      adds_onLog (receipt_writtenBy pending)
    show Relay.Adds (finish pending)
    unfold finish
    split
    · exact hreceipt.andFinally leave_adds
    · exact hreceipt
  abandon pending := by
    show Relay.Adds (abandon pending)
    unfold abandon
    split
    · exact leave_adds
    · exact adds_pure _

end Sqs

end StreamRelay
