import StreamRelay.Proofs.Stepping

/-!
# Invocations in one container

The invocations of a container share a log, one after another; their arguments, contexts and
publishers have nothing to do with each other. Each takes a course of steps (`serve_takes_course`)
and leaves no name bound, and each line of its steps carries the identifier of its request, and the
names of a record exactly if it was written for one (`course_named`, `Call.serveAll_named`).
-/

namespace StreamRelay

open Relay FanOut Moment

/-! ### What a line carries -/

namespace Log.Entry

/-- What a line has under a name: its field, or else the binding around it. -/
def at? (e : Log.Entry) (name : String) : Option Value :=
  (e.pairs.find? (·.1 = name)).map Prod.snd

/-- The line carries the identifier of the request, and the names of the record it is for, or no
names of a record if it is for none. -/
structure Named (context : Context) (who : Option Value) (e : Log.Entry) : Prop where
  correlationId : e.at? "correlation_id" = some (Invocation.requestId context)
  eventId : e.at? "event_id" = who.map fun raw => (StreamRecord.ofValue raw).eventId
  eventName : e.at? "event_name" = who.map fun raw => (StreamRecord.ofValue raw).eventName

theorem Under.at?_eq {b : Context} {e : Log.Entry} (h : e.Under b) (name : String)
    (hname : name ∈ Log.bindable) : e.at? name = (b.find? (·.1 = name)).map Prod.snd := by
  have hno : name ∉ e.fields.names := fun hmem => h.fields name hmem hname
  have hfields : e.fields.find? (·.1 = name) = none := by
    rw [List.find?_eq_none]
    intro field hfield heq
    exact hno (List.mem_map.mpr ⟨field, hfield, by simpa using heq⟩)
  rw [at?, pairs, List.find?_append, hfields, Option.none_or, h.bound, Context.without,
    List.find?_filter]
  congr 2
  funext binding
  by_cases heq : binding.1 = name
  · simp [heq, hno]
  · simp [heq]

end Log.Entry

def Invocation.names (context : Context) : Context :=
  [("correlation_id", Invocation.requestId context)]

open Invocation

theorem apart_names (context : Context) : (Invocation.names context).Apart := by
  intro raw
  simp [Context.without, Invocation.names, StreamRecord.context, Context.names]

theorem Log.Entry.Under.named {context : Context} {who : Option Value} {e : Log.Entry}
    (h : e.Under (namesOf (Invocation.names context) who)) : e.Named context who := by
  have hcorrelation := h.at?_eq "correlation_id" (by decide)
  have hid := h.at?_eq "event_id" (by decide)
  have hname := h.at?_eq "event_name" (by decide)
  cases who with
  | none => exact ⟨hcorrelation, hid, hname⟩
  | some raw =>
    -- The names of a record come behind that of the request, which they leave as it is.
    have hnames : namesOf (Invocation.names context) (some raw) =
        Invocation.names context ++ (StreamRecord.ofValue raw).context := by
      rw [namesOf, namesFor, Context.bind, apart_names]
    rw [hnames] at hcorrelation hid hname
    exact ⟨hcorrelation, hid, hname⟩

/-! ### Invocations -/

variable {σ π : Type} {p : Publisher σ π} (hp : p.Adds)

include hp

/-- **The lines of an invocation.** In every course of steps that an invocation may take from a log
with no name bound, all lines carry the names of what they are written for, and no other line is
written. -/
theorem course_named {queues expected : Value} {context : Context} {relay : Relay σ}
    {raws : List Value} {ls : List (Option Value × Log.Entry)} {m : Moment σ π}
    (h : Course p queues expected ⟨started context relay, raws, []⟩ ls m)
    (hbound : relay.log.bound = []) :
    m.relay.log.bound = Invocation.names context ∧
      m.relay.log.entries = relay.log.entries ++ ls.map Prod.snd ∧
      ∀ l ∈ ls, l.2.Named context l.1 := by
  have hstart : Sound (Invocation.names context)
      (⟨started context relay, raws, []⟩ : Moment σ π) := by
    refine ⟨?_, fun rt hrt => by cases hrt⟩
    show relay.log.bound.bind (Invocation.names context) = Invocation.names context
    rw [hbound]; rfl
  obtain ⟨hend, hentries, hlines⟩ := h.sound hp (apart_names context) hstart
  exact ⟨hend.bound, hentries, fun l hl => (hlines l hl).named⟩

/-- An invocation takes such a course, and leaves no name bound. -/
theorem serve_takes_course (expected : Value) (context : Context) (arg : Value) (relay : Relay σ)
    (hbound : relay.log.bound = []) :
    ∃ ls m, Course p (batchOf arg).queues expected
        ⟨started context relay, (batchAt arg).getD [], []⟩ ls m ∧
      (serve p expected context arg relay).2 =
        { m.relay with log := { m.relay.log with bound := [] } } := by
  obtain ⟨ls, m, hcourse, hserve⟩ := serve_course p expected arg context relay
  refine ⟨ls, m, hcourse, ?_⟩
  rw [hserve, (course_named hp hcourse hbound).1, hbound]
  rfl

omit hp

/-! ### Containers -/

/-- The publisher of an invocation, as it finds it. -/
inductive Target where
  | memory (s : Memory.Store)
  | sqs (a : Sqs.Sender)

/-- One invocation in a container. -/
structure Call where
  expected : Value
  context : Context
  arg : Value
  target : Target

namespace Call

/-- Makes a call on the log of the container: what the caller gets, and the log after it. -/
def serve (c : Call) (log : Log) : Except Fault Outcome × Log :=
  match c.target with
  | .memory s =>
    let (result, r) := Invocation.serve Memory.publisher c.expected c.context c.arg ⟨log, s⟩
    (result, r.log)
  | .sqs a =>
    let (result, r) := Invocation.serve Sqs.publisher c.expected c.context c.arg ⟨log, a⟩
    (result, r.log)

def serveAll (log : Log) (calls : List Call) : Log := calls.foldl (fun log c => (c.serve log).2) log

/-- The call may take a course of steps on its publisher, with the given lines, and end with the given
log. -/
def TakesOn (c : Call) (p : Publisher σ π) (s : σ) (log : Log)
    (ls : List (Option Value × Log.Entry)) (log' : Log) : Prop :=
  ∃ m, Course p (batchOf c.arg).queues c.expected
      ⟨started c.context ⟨log, s⟩, (batchAt c.arg).getD [], []⟩ ls m ∧
    log' = { m.relay.log with bound := [] }

/-- The call may take a course of steps with the given lines, each with the record it is written for,
and end with the given log. -/
def Takes (c : Call) (log : Log) (ls : List (Option Value × Log.Entry)) (log' : Log) : Prop :=
  match c.target with
  | .memory s => c.TakesOn Memory.publisher s log ls log'
  | .sqs a => c.TakesOn Sqs.publisher a log ls log'

variable (c : Call) {log log' : Log} (hbound : log.bound = [])

include hbound

theorem serve_takes : ∃ ls, c.Takes log ls (c.serve log).2 := by
  obtain ⟨expected, context, arg, target⟩ := c
  cases target with
  | memory s =>
    obtain ⟨ls, m, hcourse, hserve⟩ := serve_takes_course Memory.publisher_adds expected context arg
      ⟨log, s⟩ hbound
    exact ⟨ls, m, hcourse, congrArg Relay.log hserve⟩
  | sqs a =>
    obtain ⟨ls, m, hcourse, hserve⟩ := serve_takes_course Sqs.publisher_adds expected context arg
      ⟨log, a⟩ hbound
    exact ⟨ls, m, hcourse, congrArg Relay.log hserve⟩

theorem Takes.named {ls : List (Option Value × Log.Entry)} (h : c.Takes log ls log') :
    log'.bound = [] ∧ log'.entries = log.entries ++ ls.map Prod.snd ∧
      ∀ l ∈ ls, l.2.Named c.context l.1 := by
  obtain ⟨expected, context, arg, target⟩ := c
  cases target with
  | memory s =>
    obtain ⟨m, hcourse, rfl⟩ := h
    exact ⟨rfl, (course_named Memory.publisher_adds hcourse hbound).2⟩
  | sqs a =>
    obtain ⟨m, hcourse, rfl⟩ := h
    exact ⟨rfl, (course_named Sqs.publisher_adds hcourse hbound).2⟩

theorem bound_serve : (c.serve log).2.bound = [] := by
  obtain ⟨ls, htakes⟩ := c.serve_takes hbound
  exact (htakes.named c hbound).1

omit c hbound in
theorem bound_serveAll : ∀ (calls : List Call) {log : Log}, log.bound = [] →
    (serveAll log calls).bound = []
  | [], _, h => h
  | c :: calls, _, h => bound_serveAll calls (c.bound_serve h)

omit hbound in
/-- **Names never leak.** Before and after each call in a container, no name is bound, however the
calls end. A call takes a course of steps; and in every course that it may take, however turns of
tasks for different records follow each other, the lines written are those of the steps, and each
carries the identifier of the request and the names of the record for which its step is made, be it
the offering of the record or a turn of one of its tasks, or no names of a record in any other step. -/
theorem serveAll_named (refuse : Log.Entry → Option Fault) (entries : List Log.Entry)
    (calls : List Call) :
    let log := serveAll ⟨refuse, [], entries⟩ calls
    log.bound = [] ∧ (c.serve log).2.bound = [] ∧ (∃ ls, c.Takes log ls (c.serve log).2) ∧
      ∀ ls log', c.Takes log ls log' → log'.entries = log.entries ++ ls.map Prod.snd ∧
        ∀ l ∈ ls, l.2.Named c.context l.1 := by
  intro log
  have hbound : log.bound = [] := bound_serveAll calls rfl
  exact ⟨hbound, c.bound_serve hbound, c.serve_takes hbound, fun ls log' h =>
    (h.named c hbound).2⟩

end Call

end StreamRelay
