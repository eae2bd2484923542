import StreamRelay.Invocation
import StreamRelay.Proofs.Reading
import StreamRelay.Proofs.Writing

/-!
# What the gates let pass

An invocation needs two lists with members: its queues, and the batch of its event. A gate stops on
the first that is not there or is empty, with an outcome of no records and no sends (`queues_run`,
`event_run`); the argument passes both gates exactly if both lists have members (`check_run`). The
outcome of a gate writes out what is no list (`refused?`), and has no text where that has none.
-/

namespace StreamRelay

def Outcome.stopped (status : Status) (message : String) : Outcome := ⟨status, message, 0, .zero⟩

namespace Gate

/-- The status with which a gate stops on what should be a list with members. -/
def stop? : Option (List Value) → Option Status
  | none => some .failed
  | some [] => some .succeeded
  | some (_ :: _) => none

theorem stop?_eq_none {vs? : Option (List Value)} :
    stop? vs? = none ↔ ∃ vs, vs? = some vs ∧ vs ≠ [] := by
  rcases vs? with _ | _ | ⟨v, vs⟩ <;> simp [stop?]

/-- What a gate writes out when it stops: what should be a list and is none, if anything was
given. -/
def refused? (given wanted : Value) : Option Value :=
  match given, wanted.members? with
  | .null, _ => none
  | _, some _ => none
  | _, none => some wanted

/-- How an invocation ends that a gate stops: with an outcome, unless what the gate writes out has no
text. -/
def ended (v? : Option Value) (status : Status) (message : String) : Except Fault Outcome :=
  match v?.bind Value.fault? with
  | some fault => .error fault
  | none => .ok (.stopped status message)

/-- The computation is a gate that something passes if `wanted` is a list with members. Where nothing
was given, that is what the gate says; else it writes out what it refuses. -/
def Stops (x : Logged (Option Outcome)) (given wanted : Value) : Prop :=
  x.Steady ∧ ∃ message, x.result = match stop? wanted.members? with
    | some status => (ended (refused? given wanted) status message).map some
    | none => .ok none

section

variable {given wanted : Value} (level : Log.Level) (event : String) (fields : Context)

theorem stops_write {status : Status} (h : stop? wanted.members? = some status)
    (hnone : refused? given wanted = none) (message : String) :
    Stops (do Log.write logger level event fields; return some (.stopped status message)) given
      wanted :=
  ⟨(Logged.steady_write _ _ _ _).bind fun _ => Logged.steady_pure _, message, by
    rw [h, hnone]; rfl⟩

theorem stops_display (h : wanted.members? = none) (hsome : refused? given wanted = some wanted)
    (text : String) :
    Stops (do
      Log.write logger level event fields
      return some (.failed (text ++ (← wanted.display)))) given wanted := by
  unfold Stops ended
  rw [h, hsome, Option.bind_some, Value.fault?]
  cases wanted.display with
  | ok t =>
    exact ⟨(Logged.steady_write _ _ _ _).bind fun _ => Logged.steady_pure _, text ++ t, rfl⟩
  | error fault =>
    exact ⟨(Logged.steady_write _ _ _ _).bind fun _ => Logged.steady_throw fault, "", rfl⟩

theorem stops_pure (h : stop? wanted.members? = none) : Stops (pure none) given wanted :=
  ⟨Logged.steady_pure _, "", by rw [h]; rfl⟩

end

theorem queues_run (v : Value) : Stops (queues v) v v := by
  cases v with
  | list vs =>
    cases vs with
    | nil => exact stops_write _ _ _ rfl rfl _
    | cons v vs => exact stops_pure rfl
  | tuple vs =>
    cases vs with
    | nil => exact stops_write _ _ _ rfl rfl _
    | cons v vs => exact stops_pure rfl
  | null => exact stops_write _ _ _ rfl rfl _
  | _ => exact stops_display _ _ _ rfl rfl _

theorem event_run (v : Value) : Stops (event v) v (batch v) := by
  cases v with
  | dict es =>
    unfold event
    cases h : (batch (.dict es)).members? with
    | none => exact stops_display _ _ _ h (by simp only [refused?, h]) _
    | some vs =>
      cases vs with
      | nil => exact stops_write _ _ _ (by rw [h]; rfl) (by simp only [refused?, h]) _
      | cons v vs => exact stops_pure (by rw [h]; rfl)
  | null => exact stops_write _ _ _ rfl rfl _
  | _ => exact stops_display _ _ _ rfl rfl _

end Gate

namespace Invocation

/-! ### Arguments -/

def queuesAt (arg : Value) : Option (List Value) := (arg.at? ["queues"]).bind Value.members?

/-- The batch of an argument: that under `Records` if its event has this key, else that under
`records`. -/
def batchAt (arg : Value) : Option (List Value) :=
  ((arg.at? ["event", "Records"]).or (arg.at? ["event", "records"])).bind Value.members?

/-- The status with which the first gate that stops an argument stops it. -/
def stop? (arg : Value) : Option Status :=
  (Gate.stop? (queuesAt arg)).or (Gate.stop? (batchAt arg))

/-- What the first gate that stops an argument writes out. -/
def refused? (arg : Value) : Option Value :=
  let queues := (arg.at? ["queues"]).getD .null
  let event := (arg.at? ["event"]).getD .null
  let batch := ((arg.at? ["event", "Records"]).or (arg.at? ["event", "records"])).getD .null
  match Gate.stop? (queuesAt arg) with
  | some _ => Gate.refused? queues queues
  | none => Gate.refused? event batch

/-- What a gate writes out leaves room on the stack. -/
def Shallow (arg : Value) : Prop := ∀ v, refused? arg = some v → v.depth ≤ Value.deepest

/-- What a gate writes out has a text. -/
def Writable (arg : Value) : Prop :=
  ∀ v, refused? arg = some v → v.depth ≤ Value.deepest ∧ v.Short

/-- What a gate writes out has no text, for a whole number of too many digits. -/
def Unwritable (arg : Value) : Prop :=
  ∃ v, refused? arg = some v ∧ v.depth ≤ Value.deepest ∧ ¬ v.Short

theorem members?_getD (v? : Option Value) :
    (v?.getD .null).members? = v?.bind Value.members? := by
  cases v? <;> rfl

theorem getD_of_entries (arg : Value) (key : String) :
    Value.getD key (arg.entries?.getD []) = (arg.at? [key]).getD .null := by
  simp only [Value.getD, Value.at?]
  cases arg.entries? with
  | none => rfl
  | some es =>
    simp only [Option.getD_some, Option.bind_some]
    cases Value.lookup? key es <;> rfl

theorem batch_eq (v : Value) :
    Gate.batch v = ((v.at? ["Records"]).or (v.at? ["records"])).getD .null := by
  cases v with
  | dict es =>
    simp only [Gate.batch, Value.getD, Value.at?, Value.entries?, Option.bind_some]
    cases Value.lookup? "Records" es with
    | some batch => rfl
    | none => cases Value.lookup? "records" es <;> rfl
  | _ => rfl

theorem batch_event (arg : Value) :
    Gate.batch ((arg.at? ["event"]).getD .null) =
      ((arg.at? ["event", "Records"]).or (arg.at? ["event", "records"])).getD .null := by
  have hpath (key : String) : arg.at? ["event", key] = (arg.at? ["event"]).bind (Value.at? [key]) :=
    Value.at?_append [key] ["event"] arg
  rw [batch_eq, hpath, hpath]
  cases arg.at? ["event"] <;> rfl

theorem members?_queues (arg : Value) :
    (Value.getD "queues" (arg.entries?.getD [])).members? = queuesAt arg := by
  rw [getD_of_entries, members?_getD, queuesAt]

theorem members?_batch_event (arg : Value) :
    (Gate.batch (Value.getD "event" (arg.entries?.getD []))).members? = batchAt arg := by
  rw [getD_of_entries, batch_event, members?_getD, batchAt]

/-! ### Checks -/

theorem behind_run {α : Type} {gate : Logged (Option Outcome)} {given wanted : Value}
    (h : Gate.Stops gate given wanted) {next : Logged (Except Outcome α)} (hs : next.Steady) :
    (gate >>= behind next).Steady ∧ ∃ message,
      (gate >>= behind next).result = match Gate.stop? wanted.members? with
        | some status => (Gate.ended (Gate.refused? given wanted) status message).map .error
        | none => next.result := by
  obtain ⟨hg, message, hr⟩ := h
  have hbehind (outcome? : Option Outcome) : (behind next outcome?).Steady := by
    cases outcome? with
    | some outcome => exact Logged.steady_pure _
    | none => exact hs
  refine ⟨hg.bind hbehind, message, ?_⟩
  rw [Logged.result_bind hg hbehind, hr]
  cases Gate.stop? wanted.members? with
  | none => rfl
  | some status =>
    simp only []
    cases Gate.ended (Gate.refused? given wanted) status message <;> rfl

/-- **The gates.** An argument is stopped by the first gate whose list is not there or is empty, and
passes with its queues and its batch if there is none. -/
theorem check_run (arg : Value) :
    (check arg).Steady ∧ ∃ message queues records,
      (check arg).result = (match stop? arg with
        | some status => (Gate.ended (refused? arg) status message).map .error
        | none => .ok (.ok ⟨queues, records⟩)) ∧
      queues.members? = queuesAt arg ∧ records.members? = batchAt arg := by
  have hqueues := Gate.queues_run (Value.getD "queues" (arg.entries?.getD []))
  have hevent := Gate.event_run (Value.getD "event" (arg.entries?.getD []))
  obtain ⟨hs', message', hr'⟩ := behind_run hevent (Logged.steady_pure (.ok (⟨_, _⟩ : Batch)))
  obtain ⟨hs, message, hr⟩ := behind_run hqueues hs'
  rw [members?_queues] at hr
  rw [members?_batch_event] at hr'
  refine ⟨hs, if Gate.stop? (queuesAt arg) = none then message' else message, _, _, ?_,
    members?_queues arg, members?_batch_event arg⟩
  refine hr.trans ?_
  unfold stop? refused?
  cases Gate.stop? (queuesAt arg) with
  | some status =>
    rw [getD_of_entries]
    rfl
  | none =>
    refine hr'.trans ?_
    rw [getD_of_entries, batch_event]
    cases Gate.stop? (batchAt arg) <;> rfl

/-! ### Texts of outcomes -/

theorem ended_of_writable {arg : Value} (h : Writable arg) (status : Status) (message : String) :
    Gate.ended (refused? arg) status message = .ok (.stopped status message) := by
  unfold Gate.ended
  cases hv : refused? arg with
  | none => rfl
  | some v =>
    cases hfault : v.fault? with
    | none => simp only [Option.bind_some, hfault]
    | some fault => exact absurd (h v hv).2 (Value.fault?_eq_some_iff.mp hfault).2

theorem ended_eq_error_iff {arg : Value} (h : Shallow arg) {status : Status} {message : String}
    {fault : Fault} :
    Gate.ended (refused? arg) status message = .error fault ↔
      fault = .tooManyDigits ∧ Unwritable arg := by
  have hended : Gate.ended (refused? arg) status message = .error fault ↔
      (refused? arg).bind Value.fault? = some fault := by
    unfold Gate.ended
    cases (refused? arg).bind Value.fault? <;> simp
  rw [hended, Option.bind_eq_some_iff]
  constructor
  · rintro ⟨v, hv, hfault⟩
    obtain ⟨rfl, hlong⟩ := Value.fault?_eq_some_iff.mp hfault
    exact ⟨rfl, v, hv, h v hv, hlong⟩
  · rintro ⟨rfl, v, hv, -, hlong⟩
    exact ⟨v, hv, Value.fault?_eq_some_iff.mpr ⟨rfl, hlong⟩⟩

theorem ended_of_unwritable {arg : Value} (h : Unwritable arg) (status : Status)
    (message : String) : Gate.ended (refused? arg) status message = .error .tooManyDigits := by
  have hshallow : Shallow arg := by
    obtain ⟨v, hv, hdepth, -⟩ := h
    intro w hw
    rwa [← Option.some.inj (hv.symm.trans hw)]
  exact (ended_eq_error_iff hshallow).mpr ⟨rfl, h⟩

theorem refused?_eq_none {arg : Value} (h : stop? arg = none) : refused? arg = none := by
  obtain ⟨hqueues, hbatch⟩ := Option.or_eq_none_iff.mp h
  obtain ⟨raws, hraws, -⟩ := Gate.stop?_eq_none.mp hbatch
  rw [batchAt, ← members?_getD] at hraws
  simp only [refused?, hqueues]
  cases (arg.at? ["event"]).getD .null <;> simp only [Gate.refused?, hraws]

theorem Unwritable.stop?_ne_none {arg : Value} (h : Unwritable arg) : stop? arg ≠ none := by
  intro hpass
  obtain ⟨v, hv, -⟩ := h
  rw [refused?_eq_none hpass] at hv
  cases hv

end Invocation

end StreamRelay
