import StreamRelay.FanOut
import StreamRelay.Proofs.Filter
import StreamRelay.Proofs.Turns

/-!
# The offering of a batch

What the offering of a list of records comes to (`offering`): the messages of the records before the
first that aborts, each with the names bound for its record, and the fault of that record if there
is one (`fault?_offering`). Offering the records does just that (`offerAll_run`); where none aborts,
the messages are those due for the records, in order (`messages_offering`). A delivery on a publisher
that can be entered is its offering and the closing of the batch (`deliver_of_enter`).
-/

namespace StreamRelay

theorem Value.items?_of_members? {v : Value} {vs : List Value} (h : v.members? = some vs) :
    v.items? = some vs := by
  cases v with
  | list ws => exact h
  | tuple ws => exact h
  | _ => cases h

namespace StreamRecord

def accepts (expected raw : Value) : Bool :=
  match ((ofValue raw).decision expected).result with
  | .ok (.accepted _) => true
  | _ => false

/-- The messages due for a record: those built from its new image, one for each queue, if it is
accepted, and else none. -/
def due (qs : List Value) (expected raw : Value) : List Message :=
  match ((ofValue raw).decision expected).result with
  | .ok (.accepted image) => (image.messagesTo qs).result.toOption.getD []
  | _ => []

/-! ### What is due for a record -/

theorem passes_of_verdict {raw expected : Value} {i : Image}
    (h : verdict raw expected = .accepted i) :
    (∀ reason, passes raw expected reason = true) ∧ imageAt raw "NewImage" = some i := by
  have hs : (verdict raw expected).skipReason? = none := by rw [h]; rfl
  have hi := newImage?_verdict raw expected
  rw [if_pos hs, h] at hi
  exact ⟨skipReason?_verdict_eq_none.mp hs, hi.symm⟩

/-- The messages for an accepted image are built without a fault, one for each queue, and all carry
the bytes of its payload. -/
theorem messagesTo_of_accepted {raw expected : Value} {i : Image}
    (h : ((ofValue raw).decision expected).result = .ok (.accepted i)) (qs : List Value) :
    ∃ content : Content, content.payload.isSome = true ∧
      (i.messagesTo qs).result = .ok (qs.map content.message) := by
  rw [decision_result] at h
  by_cases ha : aborts raw expected = true
  · rw [if_pos ha] at h; cases h
  · rw [if_neg ha] at h
    obtain ⟨hall, hi⟩ := passes_of_verdict (Except.ok.inj h)
    have hf : foreignAt raw "NewImage" "XML" = false := by
      simp only [aborts, hall, Bool.true_and, Bool.or_eq_true, not_or, Bool.not_eq_true] at ha
      exact ha.1
    have hp : i.payload?.result = .ok (bytesAt raw "NewImage" "XML") := by
      rw [show i.payload?.result = _ from binary?_of_imageAt hi "XML", hf]; rfl
    have hsome : (bytesAt raw "NewImage" "XML").isSome = true := by
      have hvalid := hall .invalidNewImage
      simp only [passes, Bool.and_eq_true] at hvalid
      exact hvalid.1.1
    refine ⟨i.contentWith (bytesAt raw "NewImage" "XML"), hsome, ?_⟩
    rw [Image.messagesTo_result, hp]; rfl

theorem not_aborts_of_ok {expected raw : Value} {d : Decision}
    (h : ((ofValue raw).decision expected).result = .ok d) : aborts raw expected = false := by
  rw [decision_result] at h
  cases ha : aborts raw expected with
  | true => rw [ha] at h; cases h
  | false => rfl

theorem decides_iff {expected raw : Value} :
    (∃ d, ((ofValue raw).decision expected).result = .ok d) ↔ aborts raw expected = false := by
  constructor
  · rintro ⟨d, h⟩
    exact not_aborts_of_ok h
  · intro h
    refine ⟨verdict raw expected, ?_⟩
    rw [decision_result, h]; rfl

theorem forall_decides_iff {expected : Value} {raws : List Value} :
    (∀ raw ∈ raws, ∃ d, ((ofValue raw).decision expected).result = .ok d) ↔
      ∀ raw ∈ raws, aborts raw expected = false :=
  ⟨fun h raw hraw => decides_iff.mp (h raw hraw), fun h raw hraw => decides_iff.mpr (h raw hraw)⟩

theorem due_of_accepted {raw expected : Value} {i : Image}
    (h : ((ofValue raw).decision expected).result = .ok (.accepted i)) (qs : List Value) :
    (i.messagesTo qs).result = .ok (due qs expected raw) := by
  obtain ⟨content, -, hm⟩ := messagesTo_of_accepted h qs
  simp only [due, h, hm]
  rfl

theorem destination_due {raw expected : Value} {i : Image}
    (h : ((ofValue raw).decision expected).result = .ok (.accepted i)) (qs : List Value) :
    (due qs expected raw).map Message.destination = qs := by
  obtain ⟨content, -, hm⟩ := messagesTo_of_accepted h qs
  rw [due_of_accepted h qs] at hm
  rw [Except.ok.inj hm, List.map_map]
  exact List.map_id qs

theorem due_of_skipped {raw expected : Value} {reason : SkipReason}
    (h : ((ofValue raw).decision expected).result = .ok (.skipped reason)) (qs : List Value) :
    due qs expected raw = [] := by
  simp only [due, h]

theorem due_of_not_accepts {raw expected : Value} (h : accepts expected raw = false)
    (qs : List Value) : due qs expected raw = [] := by
  unfold due
  split
  · rename_i image hd
    rw [accepts, hd] at h; cases h
  · rfl

theorem request_of_mem_due {qs : List Value} {expected raw : Value} {m : Message}
    (hm : m ∈ due qs expected raw) : ∃ r, m.request = .ok r := by
  cases ha : accepts expected raw with
  | false =>
    rw [due_of_not_accepts ha] at hm
    cases hm
  | true =>
    unfold accepts at ha
    split at ha
    · rename_i image hd
      obtain ⟨content, hpayload, hmessages⟩ := messagesTo_of_accepted hd qs
      rw [due_of_accepted hd qs] at hmessages
      rw [Except.ok.inj hmessages] at hm
      obtain ⟨queue, -, rfl⟩ := List.mem_map.mp hm
      obtain ⟨bs, hbs⟩ := Option.isSome_iff_exists.mp hpayload
      exact ⟨_, by rw [Message.request, Content.message, hbs]; rfl⟩
    · cases ha

theorem length_due (qs : List Value) (expected raw : Value) :
    (due qs expected raw).length = if accepts expected raw then qs.length else 0 := by
  cases h : accepts expected raw with
  | false => rw [due_of_not_accepts h]; rfl
  | true =>
    unfold accepts at h
    split at h
    · rename_i image hd
      obtain ⟨content, -, hm⟩ := messagesTo_of_accepted hd qs
      have hdue := due_of_accepted hd qs
      rw [hm] at hdue
      rw [← Except.ok.inj hdue, List.length_map, if_pos rfl]
    · cases h

theorem length_flatMap_due (qs : List Value) (expected : Value) : ∀ raws : List Value,
    (raws.flatMap (due qs expected)).length = raws.countP (accepts expected) * qs.length
  | [] => by simp
  | raw :: raws => by
    rw [List.flatMap_cons, List.length_append, length_flatMap_due qs expected raws, length_due,
      List.countP_cons]
    cases accepts expected raw with
    | false => simp
    | true => simp only [if_true]; rw [Nat.add_mul]; omega

end StreamRecord

namespace FanOut

open StreamRecord

variable {σ π : Type}

/-! ### One record -/

theorem steady_messagesOf (queues : Value) (d : Decision) : (messagesOf queues d).Steady := by
  unfold messagesOf
  cases d with
  | skipped reason => exact Logged.steady_pure _
  | accepted image =>
    cases queues.items? with
    | none => exact Logged.steady_throw _
    | some qs => exact (Logged.steady_write _ _ _ _).bind fun _ => image.steady_messagesTo qs

theorem steady_messages (queues expected : Value) (record : StreamRecord) :
    (messages queues expected record).Steady :=
  (Logged.steady_write _ _ _ _).bind fun _ =>
    (record.steady_decision expected).bind fun d => steady_messagesOf queues d

theorem messagesOf_accepted_result {queues : Value} {qs : List Value}
    (hq : queues.members? = some qs) (image : Image) :
    (messagesOf queues (.accepted image)).result = (image.messagesTo qs).result := by
  simp only [messagesOf, Value.items?_of_members? hq]
  rw [Logged.result_bind (Logged.steady_write _ _ _ _) fun _ => image.steady_messagesTo qs]
  rfl

theorem messages_result {queues : Value} {qs : List Value} (hq : queues.members? = some qs)
    (expected raw : Value) :
    (messages queues expected (ofValue raw)).result =
      if aborts raw expected then .error .notAscii else .ok (due qs expected raw) := by
  have hd := steady_decision (ofValue raw) expected
  have hm : (messages queues expected (ofValue raw)).result =
      ((ofValue raw).decision expected).result.bind fun d => (messagesOf queues d).result := by
    unfold messages
    rw [Logged.result_bind (Logged.steady_write _ _ _ _) fun _ =>
      hd.bind fun d => steady_messagesOf queues d, Logged.result_write, ← Logged.result_bind hd
      fun d => steady_messagesOf queues d]
    rfl
  rw [hm]
  by_cases ha : aborts raw expected = true
  · rw [decision_result, if_pos ha, if_pos ha]; rfl
  · have hr := decision_result raw expected
    rw [if_neg ha] at hr
    rw [if_neg ha, hr]
    cases hv : verdict raw expected with
    | skipped reason =>
      rw [hv] at hr
      rw [due_of_skipped hr]; rfl
    | accepted image =>
      rw [hv] at hr
      exact (messagesOf_accepted_result hq image).trans (due_of_accepted hr qs)

def namesFor (b : Context) (raw : Value) : Context := b.bind (ofValue raw).context

/-- The names bound after a record was offered under the names `b`. -/
def namesAfter (b : Context) (raw : Value) : Context :=
  (namesFor b raw).unbind (ofValue raw).context b

theorem offer_run (queues expected raw : Value) (b : Context) (es : List Log.Entry) :
    offer (π := π) queues expected raw (Log.keeping b es) =
      ((messages queues expected (ofValue raw)).result.map fun ms =>
          ms.map (Task.create (namesFor b raw)),
        Log.keeping (namesAfter b raw)
          (es ++ (messages queues expected (ofValue raw)).lines (namesFor b raw))) := by
  unfold offer
  refine Logged.binding_run (c := namesFor b raw) ?_
  rw [except_bind_at, show messages queues expected (ofValue raw)
    (Log.keeping (b.bind (ofValue raw).context) es) = _ from steady_messages queues expected _ _ es]
  cases (messages queues expected (ofValue raw)).result <;> rfl

/-- The tasks of a record that is offered are those of its messages, whatever the log refuses. -/
theorem offer_eq_ok {queues expected raw : Value} {log log' : Log} {ts : List (Task π)}
    (h : offer queues expected raw log = (.ok ts, log')) :
    ∃ ms names, (messages queues expected (ofValue raw)
        { log with bound := namesFor log.bound raw }).1 = .ok ms ∧
      ts = ms.map (Task.create names) := by
  unfold offer Logged.binding at h
  rw [except_bind_at] at h
  rcases hm : messages queues expected (ofValue raw)
    { log with bound := log.bound.bind (ofValue raw).context } with ⟨fault | ms, l⟩
  · rw [hm] at h
    cases (Prod.mk.inj h).1
  · rw [hm] at h
    obtain rfl := Except.ok.inj (Prod.mk.inj h).1
    exact ⟨ms, _, congrArg Prod.fst hm, rfl⟩

/-! ### All records -/

/-- What the offering of records comes to: the messages with the names bound for their records, the
fault at which it stopped, the names bound at the end, and the lines written. -/
structure Offering where
  messages : List (Context × Message)
  fault? : Option Fault
  bound : Context
  lines : List Log.Entry

/-- The offering of records under the names `b`. -/
def offering (queues expected : Value) (b : Context) : List Value → Offering
  | [] => ⟨[], none, b, []⟩
  | raw :: raws =>
    let names := namesFor b raw
    let lines := (FanOut.messages queues expected (ofValue raw)).lines names
    match (FanOut.messages queues expected (ofValue raw)).result with
    | .error fault => ⟨[], some fault, namesAfter b raw, lines⟩
    | .ok ms =>
      let o := offering queues expected (namesAfter b raw) raws
      ⟨ms.map (names, ·) ++ o.messages, o.fault?, o.bound, lines ++ o.lines⟩

theorem offerAll_run (queues expected : Value) : ∀ (raws : List Value) (b : Context)
    (es : List Log.Entry),
    offerAll (π := π) queues expected raws (Log.keeping b es) =
      let o := offering queues expected b raws
      ((o.messages.map fun cm => Task.create cm.1 cm.2, o.fault?),
        Log.keeping o.bound (es ++ o.lines))
  | [], b, es => by
    show (([], none), Log.keeping b es) = _
    simp only [offering, List.map_nil, List.append_nil]
  | raw :: raws, b, es => by
    rw [offerAll, bind_at, show (offer (π := π) queues expected raw).run (Log.keeping b es) = _ from
      offer_run queues expected raw b es, offering]
    cases (messages queues expected (ofValue raw)).result with
    | error fault => rfl
    | ok ms =>
      simp only [Except.map]
      rw [bind_at, offerAll_run queues expected raws]
      simp only [List.map_append, List.map_map, List.append_assoc]
      rfl

variable {queues : Value} {qs : List Value} (hq : queues.members? = some qs) (expected : Value)

include hq

/-- The offering stops at a fault exactly if a record aborts. -/
theorem fault?_offering : ∀ (raws : List Value) (b : Context),
    (offering queues expected b raws).fault? =
      if raws.any fun raw => aborts raw expected then some .notAscii else none
  | [], _ => rfl
  | raw :: raws, b => by
    rw [offering, messages_result hq]
    cases ha : aborts raw expected with
    | true => simp [ha]
    | false => simp [ha, fault?_offering raws]

/-- The messages of an offering are those due for the records before the first that aborts. -/
theorem messages_offering : ∀ (raws : List Value) (b : Context),
    (offering queues expected b raws).messages.map Prod.snd =
      (raws.takeWhile fun raw => !aborts raw expected).flatMap (due qs expected)
  | [], _ => rfl
  | raw :: raws, b => by
    rw [offering, messages_result hq]
    cases ha : aborts raw expected with
    | true => simp [ha]
    | false => simp [ha, messages_offering raws, Function.comp_def]

theorem offering_of_no_abort {raws : List Value} (h : ∀ raw ∈ raws, aborts raw expected = false)
    (b : Context) :
    (offering queues expected b raws).fault? = none ∧
      (offering queues expected b raws).messages.map Prod.snd = raws.flatMap (due qs expected) := by
  have hall : (raws.takeWhile fun raw => !aborts raw expected) = raws := by
    have happ : ((raws ++ []).takeWhile fun raw => !aborts raw expected) =
        raws ++ [].takeWhile fun raw => !aborts raw expected :=
      List.takeWhile_append_of_pos fun raw hraw => by rw [h raw hraw]; rfl
    simpa using happ
  rw [fault?_offering hq, messages_offering hq, hall, if_neg]
  · exact ⟨rfl, rfl⟩
  · simpa using h

omit hq

/-! ### Deliveries -/

theorem deliver_of_enter_fault {p : Publisher σ π} {fault : Fault} {r r' : Relay σ}
    (henter : p.enter.run r = (.error fault, r')) (records : Value) :
    deliver p expected queues records r = (.clear (.error fault), r') := by
  rw [deliver, bind_at, henter]; rfl

/-- Once a publisher is entered, a delivery offers the records and closes with what that comes
to. -/
theorem deliver_of_enter {p : Publisher σ π} {records : Value} {raws : List Value}
    (hraws : records.members? = some raws) {b : Context} {es : List Log.Entry} {s s' : σ}
    (henter : p.enter.run (Relay.keeping b es s) = (.ok (), Relay.keeping b es s')) :
    deliver p expected queues records (Relay.keeping b es s) =
      let o := offering queues expected b raws
      close p (o.messages.map fun cm => Task.create cm.1 cm.2) o.fault?
        (Relay.keeping o.bound (es ++ o.lines) s') := by
  have hoffer : Relay.onLog (offerAll (π := π) queues expected raws) (Relay.keeping b es s') =
      (((offering queues expected b raws).messages.map fun cm => Task.create cm.1 cm.2,
        (offering queues expected b raws).fault?),
        Relay.keeping (offering queues expected b raws).bound
          (es ++ (offering queues expected b raws).lines) s') := by
    have hrun := offerAll_run (π := π) queues expected raws b es
    show ((offerAll queues expected raws (Log.keeping b es)).1,
      (⟨(offerAll queues expected raws (Log.keeping b es)).2, s'⟩ : Relay σ)) = _
    rw [hrun]; rfl
  rw [deliver, bind_at, henter, Value.items?_of_members? hraws]
  simp only []
  rw [bind_at, hoffer]

end FanOut

end StreamRelay
