import StreamRelay.Proofs.Beginnings
import StreamRelay.Proofs.Senders
import StreamRelay.Proofs.Lifecycle
import StreamRelay.Proofs.Outcomes

/-!
# The requests of an invocation

A send makes at most one request, in its first half: on the client in the slot, be it that of the
batch or of another send, or on one that it opens for itself, where an opening that fails costs the
request (`begin_asked`). Nothing else makes requests. So the requests of an invocation are those of
the messages due, in order, of which some may be missing (`serve_asks_at_most_once`), and none is
missing if clients can always be opened.
-/

namespace StreamRelay.Sqs

open Relay

/-- No creation and no opening of a client has a fault. -/
def Script.Opens (script : Script) : Prop :=
  ∀ fault? ∈ script.creates ++ script.opens, fault? = none

def requestsOf (ms : List Message) : List Request := ms.filterMap fun m => m.request.toOption

theorem requestsOf_concat (ms : List Message) (m : Message) :
    requestsOf (ms ++ [m]) = requestsOf ms ++ m.request.toOption.toList := by
  unfold requestsOf
  rw [List.filterMap_append, List.filterMap_cons]
  cases m.request <;> rfl

/-- The sender follows the script, and the requests it made after `before` are some of those of
`ms`, in order; all of them, if clients can always be opened. -/
def Sender.Asked (script : Script) (before : List Request) (ms : List Message) (a : Sender) : Prop :=
  a.session.script = script ∧ ∃ rs, a.session.requests.map Prod.snd = before ++ rs ∧
    rs.Sublist (requestsOf ms) ∧ (script.Opens → rs = requestsOf ms)

variable {script : Script} {before : List Request} {ms : List Message}

namespace Sender.Asked

variable {a : Sender} (h : Asked script before ms a)

include h

/-- What is no request changes nothing. -/
theorem note {e : Event} (he : e.request? = none) :
    Asked script before ms { a with session := a.session.note e } := by
  obtain ⟨hscript, rs, hrs⟩ := h
  refine ⟨hscript, rs, ?_⟩
  rwa [Session.requests_note, he, Option.toList_none, List.append_nil]

theorem setSlot (slot : Slot) : Asked script before ms (a.setSlot slot) :=
  h.note (e := .slot slot) rfl

/-- A send without a request. -/
theorem skip (m : Message) (hm : m.request.toOption = none ∨ ¬ script.Opens) :
    Asked script before (ms ++ [m]) a := by
  obtain ⟨hscript, rs, hrs, hsub, hall⟩ := h
  refine ⟨hscript, rs, hrs, ?_, fun hopens => ?_⟩
  · rw [requestsOf_concat]
    exact hsub.trans (List.sublist_append_left _ _)
  · rw [requestsOf_concat, hm.resolve_right (not_not_intro hopens), Option.toList_none,
      List.append_nil, hall hopens]

/-- A send with its request. -/
theorem ask {m : Message} {r : Request} (hr : m.request = .ok r) (client : Nat) :
    Asked script before (ms ++ [m])
      { a with session := a.session.note (.requested client r) } := by
  obtain ⟨hscript, rs, hrs, hsub, hall⟩ := h
  have hconcat : requestsOf (ms ++ [m]) = requestsOf ms ++ [r] := by
    rw [requestsOf_concat, hr]; rfl
  refine ⟨hscript, rs ++ [r], ?_, ?_, fun hopens => ?_⟩
  · rw [Session.requests_note, List.map_append, hrs, List.append_assoc]; rfl
  · rw [hconcat]
    exact hsub.append (List.Sublist.refl [r])
  · rw [hconcat, hall hopens]

end Sender.Asked

/-! ### Operations -/

theorem Session.open?_of_opens {s : Session} (h : s.script.Opens) (settings : Context) :
    ∃ n, (s.open? settings).1 = .ok n := by
  have hnone {l : List (Option Fault)} (hl : ∀ fault? ∈ l, fault? = none) (n : Nat) :
      (l[n]?).join = none := by
    cases hn : l[n]? with
    | none => rfl
    | some fault? => exact hl fault? (List.mem_of_getElem? hn)
  have hcreates := hnone (fun f hf => h f (List.mem_append_left _ hf)) s.created.length
  have hopens := hnone (fun f hf => h f (List.mem_append_right _ hf)) s.created.length
  refine ⟨s.created.length, ?_⟩
  unfold Session.open?
  simp only [Session.script_note, hcreates, hopens, Option.none_or]

/-- Opening a client makes no request, and fails only if the script has a fault for it. -/
theorem occupy_asked : Carries (Sender.Asked script before ms) occupy
    (Ends (fun _ => Sender.Asked script before ms) fun _ a =>
      Sender.Asked script before ms a ∧ ¬ script.Opens) := by
  intro r hr
  unfold occupy
  rw [except_bind_at]
  simp only [Action.publisher]
  rw [except_bind_at]
  simp only [Action.attempt, onSession]
  rcases r.publisher.session.open?_cases r.publisher.settings with ⟨fault, hopen⟩ | hopen
  · have hnot : ¬ script.Opens := by
      intro hopens
      rw [← hr.1] at hopens
      obtain ⟨n, hn⟩ := Session.open?_of_opens hopens r.publisher.settings
      rw [hopen] at hn
      cases hn
    rw [hopen]
    refine ((report_held _ fault).ends_imp (fun _ _ => False.elim) fun _ _ hs => hs) ⟨r.log, _⟩ ?_
    exact ⟨(hr.note (e := .created r.publisher.settings) rfl).note (e := .notOpened) rfl, hnot⟩
  · rw [hopen]
    exact ((hr.note (e := .created r.publisher.settings) rfl).note
      (e := .opened r.publisher.session.created.length) rfl).setSlot _

theorem leave_asked :
    Carries (Sender.Asked script before ms) leave fun _ => Sender.Asked script before ms := by
  intro r hr
  have hslot : Sender.Asked script before ms (r.publisher.setSlot .empty) :=
    hr.setSlot .empty
  unfold leave
  rw [except_bind_at]
  simp only [Action.publisher]
  rw [except_bind_at]
  simp only [Action.setPublisher]
  cases r.publisher.slot.toClose with
  | none => exact hslot
  | some n =>
    show Sender.Asked script before ms { r.publisher.setSlot .empty with
      session := ((r.publisher.setSlot .empty).session.close n).2 }
    rw [Session.close_history]
    exact hslot.note (e := .closed n) rfl

theorem ask_asked (m : Message) (client : Nat) (own : Bool) :
    Carries (Sender.Asked script before ms) (ask m client own) fun _ =>
      Sender.Asked script before (ms ++ [m]) := by
  intro r hr
  unfold ask
  rw [except_bind_at]
  cases hm : m.request with
  | error fault => exact hr.skip m (.inl (by rw [hm]; rfl))
  | ok request => exact hr.ask hm client

/-- A send makes its request, unless it has to open a client and that fails. -/
theorem begin_asked (m : Message) : Carries (Sender.Asked script before ms) (begin m) fun _ =>
    Sender.Asked script before (ms ++ [m]) := by
  intro r hr
  unfold begin
  rw [except_bind_at]
  simp only [Action.publisher]
  cases r.publisher.slot.client with
  | some client => exact ask_asked m client false r hr
  | none =>
    -- The send opens a client for itself, and is without a request if that fails.
    have hoccupy : Carries (Sender.Asked script before ms) occupy
        (Ends (fun _ => Sender.Asked script before ms) fun _ =>
          Sender.Asked script before (ms ++ [m])) :=
      occupy_asked.ends_imp (fun _ _ => id) fun _ _ hs => hs.1.skip m (.inr hs.2)
    refine Carries.bind_action (Q := fun _ => Sender.Asked script before (ms ++ [m])) hoccupy
      (fun client => ?_) r hr
    exact Carries.onFault (ask_asked m client true).ends (leave_asked.post fun _ _ hs _ => hs)

/-- **The requests made are those of the sends begun.** -/
theorem accounts_asked (script : Script) (before : List Request) :
    publisher.Accounts (Sender.Asked script before) where
  enter ms := Carries.bind_action
    (occupy_asked.ends_imp (fun _ _ => id) fun _ _ hs => hs.1) fun _ => carries_pure _ fun _ => id
  leave ms := leave_asked
  begin ms m := begin_asked m
  finish ms pending := by
    show Carries _ (finish pending) _
    unfold finish
    cases pending.ownClient with
    | true => exact Carries.andFinally (carries_ofLogged _) leave_asked
    | false => exact carries_ofLogged _
  abandon ms pending := by
    show Carries _ (abandon pending) _
    unfold abandon
    cases pending.ownClient with
    | true => exact leave_asked
    | false => exact carries_pure _ fun _ => id

theorem enter_of_opens {r : Relay Sender} (h : r.publisher.session.script.Opens) :
    (publisher.enter r).1 = .ok () ∧ (publisher.enter r).2.log = r.log := by
  obtain ⟨n, hn⟩ := Session.open?_of_opens h r.publisher.settings
  show (enter r).1 = .ok () ∧ (enter r).2.log = r.log
  rw [enter, except_bind_at, occupy, except_bind_at]
  simp only [Action.publisher]
  rw [except_bind_at]
  simp only [Action.attempt, onSession]
  rcases hopen : r.publisher.session.open? r.publisher.settings with ⟨result, session⟩
  rw [hopen] at hn
  obtain rfl : result = .ok n := hn
  exact ⟨rfl, rfl⟩

/-! ### Invocations -/

theorem map_request {ms : List Message} (h : ∀ m ∈ ms, ∃ r, m.request = .ok r) :
    ms.map Message.request = (requestsOf ms).map .ok := by
  induction ms with
  | nil => rfl
  | cons m ms ih =>
    obtain ⟨hm, hms⟩ := List.forall_mem_cons.mp h
    obtain ⟨r, hr⟩ := hm
    rw [List.map_cons, ih hms, hr]
    simp only [requestsOf, List.filterMap_cons, hr]
    rfl

theorem queueUrl_request {m : Message} {r : Request} (h : m.request = .ok r) :
    r.queueUrl = m.destination := by
  unfold Message.request at h
  split at h
  · rw [← Except.ok.inj h]; rfl
  · rw [← Except.ok.inj h]; rfl
  · cases h

open StreamRecord in
theorem destination_of_mem_due {qs : List Value} {expected raw : Value} {m : Message}
    (hm : m ∈ due qs expected raw) : m.destination ∈ qs := by
  cases ha : accepts expected raw with
  | false =>
    rw [due_of_not_accepts ha] at hm
    cases hm
  | true =>
    unfold accepts at ha
    split at ha
    · rename_i image hd
      rw [← destination_due hd qs]
      exact List.mem_map_of_mem hm
    · cases ha

open StreamRecord Invocation in
/-- **At most once.** For each argument that passes the gates, whatever the session's script and the
log, the requests that the invocation makes are those of the messages due for the accepted records
before the first that aborts, in the order of records and queues, of which some may be missing. None
is missing if clients can always be opened and the log keeps its entries. -/
theorem serve_asks_at_most_once (expected : Value) (context : Context) {arg : Value}
    {qs raws : List Value} (hpass : stop? arg = none) (hqs : queuesAt arg = some qs)
    (hraws : batchAt arg = some raws) (log : Log) (a : Sender) :
    ∃ rs asked : List Request,
      ((raws.takeWhile fun raw => !aborts raw expected).flatMap (due qs expected)).map
          Message.request = rs.map .ok ∧
      (serve publisher expected context arg ⟨log, a⟩).2.publisher.session.requests.map Prod.snd =
        a.session.requests.map Prod.snd ++ asked ∧
      asked.Sublist rs ∧ (∀ r ∈ asked, r.queueUrl ∈ qs) ∧
      (log.Keeps → a.session.script.Opens → asked = rs) := by
  obtain ⟨ms, hms, ⟨-, asked, hasked, hsub, hasksAll⟩, hall⟩ :=
    (accounts_asked a.session.script (a.session.requests.map Prod.snd)).serve_accounts expected hqs
      hraws hpass context ⟨log, a⟩
      ⟨rfl, [], (List.append_nil _).symm, List.Sublist.refl _, fun _ => rfl⟩
  have hmem {m : Message} (hm : m ∈ FanOut.dueUpTo qs expected raws) :
      ∃ raw, m ∈ due qs expected raw := by
    obtain ⟨raw, -, hraw⟩ := List.mem_flatMap.mp hm
    exact ⟨raw, hraw⟩
  have hdue : asked.Sublist (requestsOf (FanOut.dueUpTo qs expected raws)) :=
    hsub.trans (hms.sublist.filterMap _)
  refine ⟨requestsOf (FanOut.dueUpTo qs expected raws), asked, map_request fun m hm => ?_, hasked,
    hdue, fun r hr => ?_, fun hlog hopens => ?_⟩
  · obtain ⟨raw, hraw⟩ := hmem hm
    exact request_of_mem_due hraw
  · obtain ⟨m, hm, hrequest⟩ := List.mem_filterMap.mp (hdue.subset hr)
    obtain ⟨raw, hraw⟩ := hmem hm
    have hok : m.request = .ok r := by
      cases h : m.request with
      | error fault => rw [h] at hrequest; cases hrequest
      | ok r' => rw [h] at hrequest; exact congrArg Except.ok (Option.some.inj hrequest)
    rw [queueUrl_request hok]
    exact destination_of_mem_due hraw
  · have henter : ∀ r' : Relay Sender, r'.log.Keeps →
        Sender.Asked a.session.script (a.session.requests.map Prod.snd) [] r'.publisher →
        (publisher.enter r').1 = .ok () ∧ (publisher.enter r').2.log.Keeps := by
      intro r' hkeeps hr'
      obtain ⟨hok, hlog'⟩ := enter_of_opens (r := r') (by rwa [hr'.1])
      exact ⟨hok, by rwa [hlog']⟩
    rw [hasksAll hopens, hall hlog henter]

open StreamRecord Invocation in
/-- Two accepted records before one that aborts: their sends begin when the batch has been left, and
the first finds no client, since the one it would open cannot be created. -/
theorem serve_asks_at_most_once_second :
    let accepted := sample "PHgvPg==" "AQ==" "Ag=="
    let arg := sampleArg (.ofFields [("Records",
      .list [accepted, accepted, sample "é" "AQ==" "Ag=="])])
    let script : Script := ⟨[none, some (.transport .noRegion)], [], [], []⟩
    let raws := [accepted, accepted, sample "é" "AQ==" "Ag=="]
    (stop? arg = none ∧ queuesAt arg = some [.text "q"] ∧ batchAt arg = some raws) ∧
      ∃ rs asked : List Request,
        (serve publisher (.text "aws:dynamodb") [] arg
          ⟨Log.empty, .new (.text "us-east-1") .null script⟩).2.publisher.session.requests.map
            Prod.snd = asked ∧
        asked.Sublist rs ∧ asked.length = 1 ∧ rs.length = 2 := by
  intro accepted arg script raws
  have hpass : stop? arg = none := rfl
  have hqs : queuesAt arg = some [.text "q"] := rfl
  have hraws : batchAt arg = some raws := rfl
  obtain ⟨rs, asked, hrs, hasked, hsub, -⟩ := serve_asks_at_most_once (.text "aws:dynamodb") []
    hpass hqs hraws Log.empty (.new (.text "us-east-1") .null script)
  have hnew : (Sender.new (.text "us-east-1") .null script).session.requests.map Prod.snd = [] := rfl
  have hone : (serve publisher (.text "aws:dynamodb") [] arg
      ⟨Log.empty, .new (.text "us-east-1") .null script⟩).2.publisher.session.requests.length = 1 := by
    decide +kernel
  have htwo : ((raws.takeWhile fun raw => !aborts raw (.text "aws:dynamodb")).flatMap
      (due [.text "q"] (.text "aws:dynamodb"))).length = 2 := by decide +kernel
  rw [hnew, List.nil_append] at hasked
  refine ⟨⟨hpass, hqs, hraws⟩, rs, asked, hasked, hsub, ?_, ?_⟩
  · rw [← hasked, List.length_map, hone]
  · have hlength := congrArg List.length hrs
    rw [List.length_map, List.length_map, htwo] at hlength
    exact hlength.symm

end StreamRelay.Sqs
