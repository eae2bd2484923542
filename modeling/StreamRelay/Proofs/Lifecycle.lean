import Mathlib.Data.List.Induction
import StreamRelay.Publisher.Sqs
import StreamRelay.Proofs.Holders

/-!
# The life of a client

What happened in a session up to some moment is a prefix of its history; it says which clients are
open then (`openClients`) and what the sender's slot holds (`slotAfter`). The history of a sender is
lawful if each event is one that may happen after those before it (`Lawful`, `Event.Follows`): a
client is opened when none is open, a request is made on the open client, and the open client is
closed. The operations of the SQS publisher keep that law, and count its holders: the slot holds the
one open client while there is a holder, and nothing while there is none (`counts_holding`).
-/

namespace StreamRelay.Sqs

open Relay

/-! ### Moments -/

def Event.slot? : Event → Option Slot
  | slot s => some s
  | _ => none

/-- The clients that are open after an event, given those that were open before it. -/
def Event.openAfter (clients : List Nat) : Event → List Nat
  | opened n => clients ++ [n]
  | closed n => clients.erase n
  | _ => clients

def openClients (es : List Event) : List Nat := es.foldl Event.openAfter []

def slotAfter (es : List Event) : Slot := ((es.filterMap Event.slot?).getLast?).getD .empty

theorem filterMap_concat {α : Type} (f : Event → Option α) (es : List Event) (e : Event) :
    (es ++ [e]).filterMap f = es.filterMap f ++ (f e).toList := by
  rw [List.filterMap_append]
  cases h : f e <;> simp [h]

theorem openClients_concat (es : List Event) (e : Event) :
    openClients (es ++ [e]) = e.openAfter (openClients es) := by
  simp [openClients, List.foldl_append]

theorem slotAfter_concat (es : List Event) (e : Event) :
    slotAfter (es ++ [e]) = e.slot?.getD (slotAfter es) := by
  unfold slotAfter
  rw [filterMap_concat]
  cases e <;> simp [Event.slot?]

/-- An event that may happen after those of the past. -/
def Event.Follows (past : List Event) : Event → Prop
  | created _ => openClients past = []
  | opened n => openClients past = [] ∧ ∀ m ∈ past.filterMap Event.opened?, m < n
  | notOpened => openClients past = [] ∧ slotAfter past = .empty
  | closed n => openClients past = [n]
  | requested n _ => openClients past = [n]
  | slot s => s = .empty ∨ ∃ n, s = .holding n

/-- Each event is one that may happen after those before it. -/
def Lawful (es : List Event) : Prop := ∀ past e, past ++ [e] <+: es → e.Follows past

theorem lawful_nil : Lawful [] := by
  intro past e h
  simp at h

theorem Lawful.concat {es : List Event} (h : Lawful es) {e : Event} (he : e.Follows es) :
    Lawful (es ++ [e]) := by
  intro past e' hp
  rcases List.prefix_concat_iff.mp hp with heq | hp
  · obtain ⟨rfl, rfl⟩ := List.append_singleton_inj.mp heq
    exact he
  · exact h past e' hp

theorem Lawful.of_prefix {es fs : List Event} (h : Lawful es) (hp : fs <+: es) : Lawful fs :=
  fun past e hpe => h past e (hpe.trans hp)

theorem Lawful.last {es : List Event} {e : Event} (h : Lawful (es ++ [e])) :
    Lawful es ∧ e.Follows es :=
  ⟨h.of_prefix (List.prefix_append ..), h es e (List.prefix_refl _)⟩

/-- At each moment of a lawful history at most one client is open, and the slot holds a client that
leaving closes, or nothing. -/
theorem Lawful.moment {es : List Event} (h : Lawful es) :
    (openClients es).length ≤ 1 ∧ (slotAfter es = .empty ∨ ∃ n, slotAfter es = .holding n) := by
  induction es using List.reverseRecOn with
  | nil => exact ⟨by simp [openClients], .inl rfl⟩
  | append_singleton es e ih =>
    obtain ⟨hes, he⟩ := h.last
    obtain ⟨hone, hslot⟩ := ih hes
    rw [openClients_concat, slotAfter_concat]
    cases e with
    | created settings => exact ⟨hone, hslot⟩
    | notOpened => exact ⟨hone, hslot⟩
    | requested n q => exact ⟨hone, hslot⟩
    | opened n => exact ⟨by simp [Event.openAfter, he.1], hslot⟩
    | closed n => exact ⟨Nat.le_trans List.erase_sublist.length_le hone, hslot⟩
    | slot s => exact ⟨hone, he⟩

/-- In a lawful history the clients opened are those closed, in the same order, and behind them those
that are open. -/
theorem Lawful.opened_eq {es : List Event} (h : Lawful es) :
    es.filterMap Event.opened? = es.filterMap Event.closed? ++ openClients es := by
  induction es using List.reverseRecOn with
  | nil => rfl
  | append_singleton es e ih =>
    obtain ⟨hes, he⟩ := h.last
    have hbefore := ih hes
    rw [filterMap_concat, filterMap_concat, openClients_concat, hbefore]
    cases e with
    | closed n =>
      rw [show openClients es = [n] from he]
      simp [Event.opened?, Event.closed?, Event.openAfter]
    | _ => simp [Event.opened?, Event.closed?, Event.openAfter]

theorem Lawful.opened_nodup {es : List Event} (h : Lawful es) :
    (es.filterMap Event.opened?).Nodup := by
  induction es using List.reverseRecOn with
  | nil => exact List.nodup_nil
  | append_singleton es e ih =>
    obtain ⟨hes, he⟩ := h.last
    rw [filterMap_concat]
    cases e with
    | opened n =>
      refine List.nodup_append.mpr ⟨ih hes, by simp [Event.opened?], fun a ha b hb => ?_⟩
      have hlt := he.2 a ha
      obtain rfl : b = n := by simpa [Event.opened?] using hb
      omega
    | _ => simpa [Event.opened?] using ih hes

/-! ### Holders -/

/-- The sender has `n` holders: its history is lawful, and its slot holds the one open client if
there is a holder, and nothing if there is none. -/
structure Sender.Held (n : Nat) (a : Sender) : Prop where
  lawful : Lawful a.session.history
  slot_eq : a.slot = slotAfter a.session.history
  below : ∀ m ∈ a.session.opened, m < a.session.created.length
  holders : n = 0 ∧ a.slot = .empty ∧ openClients a.session.history = [] ∨
    n = 1 ∧ ∃ c, a.slot = .holding c ∧ openClients a.session.history = [c]

theorem openClients_note (s : Session) (e : Event) :
    openClients (s.note e).history = e.openAfter (openClients s.history) := openClients_concat ..

theorem slotAfter_note (s : Session) (e : Event) :
    slotAfter (s.note e).history = e.slot?.getD (slotAfter s.history) := slotAfter_concat ..

theorem Lawful.note {s : Session} (h : Lawful s.history) {e : Event} (he : e.Follows s.history) :
    Lawful (s.note e).history := h.concat he

namespace Sender.Held

variable {a : Sender} {n : Nat}

theorem of_new (region endpointUrl : Value) (script : Script) :
    Held 0 (.new region endpointUrl script) :=
  ⟨lawful_nil, rfl, by simp [Sender.new, Session.opened], .inl ⟨rfl, rfl, rfl⟩⟩

theorem idle (h : Held 0 a) : a.slot = .empty ∧ openClients a.session.history = [] := by
  rcases h.holders with ⟨-, hh⟩ | ⟨h01, -⟩
  · exact hh
  · cases h01

theorem busy (h : Held (n + 1) a) :
    n = 0 ∧ ∃ c, a.slot = .holding c ∧ openClients a.session.history = [c] := by
  rcases h.holders with ⟨h0, -⟩ | ⟨h1, hh⟩
  · cases h0
  · exact ⟨by omega, hh⟩

/-- Noting what is no opening and no creation keeps the numbers of clients below their count. -/
theorem below_note {s : Session} (h : ∀ m ∈ s.opened, m < s.created.length) {e : Event}
    (he : e.opened? = none) : ∀ m ∈ (s.note e).opened, m < (s.note e).created.length := by
  intro m hm
  rw [Session.opened_note, he] at hm
  have := h m (by simpa using hm)
  rw [Session.created_note, List.length_append]
  omega

/-- A client that was created but could not be opened. -/
theorem fail (h : Held 0 a) (settings : Context) :
    Held 0 { a with session := (a.session.note (.created settings)).note .notOpened } := by
  obtain ⟨hslot, hopen⟩ := h.idle
  have hslots : slotAfter (a.session.note (.created settings)).history = .empty := by
    rw [slotAfter_note, ← hslot, h.slot_eq]; rfl
  have hclients : openClients (a.session.note (.created settings)).history = [] := by
    rw [openClients_note, hopen]; rfl
  refine ⟨(h.lawful.note (e := .created settings) hopen).note ⟨hclients, hslots⟩, ?_,
    below_note (below_note h.below rfl) rfl, .inl ⟨rfl, hslot, ?_⟩⟩
  · simp only [slotAfter_note, hslots]; exact hslot
  · simp only [openClients_note, hclients]; rfl

/-- A client that was created and opened, and put into the slot. -/
theorem fill (h : Held 0 a) (settings : Context) :
    let c := a.session.created.length
    Held 1 ({ a with session := (a.session.note (.created settings)).note (.opened c) }.setSlot
      (.holding c)) := by
  intro c
  obtain ⟨-, hopen⟩ := h.idle
  obtain ⟨s, hs⟩ : ∃ s, s = a.session.note (.created settings) := ⟨_, rfl⟩
  have hclients : openClients s.history = [] := by
    rw [hs, openClients_note, hopen]; rfl
  have hlawful : Lawful s.history := by rw [hs]; exact h.lawful.note hopen
  have hcreated : s.created.length = c + 1 := by
    rw [hs, Session.created_note]; simp [Event.settings?, c]
  have hold : ∀ m ∈ s.opened, m < c := by
    intro m hm
    rw [hs, Session.opened_note] at hm
    exact h.below m (by simpa [Event.opened?] using hm)
  rw [← hs]
  refine ⟨(hlawful.note (e := .opened c) ⟨hclients, hold⟩).note (.inr ⟨c, rfl⟩), ?_, below_note ?_ rfl,
    .inr ⟨rfl, c, rfl, ?_⟩⟩
  · simp only [Sender.setSlot, slotAfter_note]; rfl
  · intro m hm
    rw [Session.opened_note] at hm
    rw [Session.created_note, List.length_append, hcreated]
    rcases List.mem_append.mp hm with hm | hm
    · have := hold m hm
      omega
    · obtain rfl : m = c := by simpa [Event.opened?] using hm
      omega
  · simp only [Sender.setSlot, openClients_note, hclients]; rfl

/-- A request on the client in the slot. -/
theorem request (h : Held n a) {c : Nat} (hc : a.slot.client = some c) (q : Request) :
    Held n { a with session := a.session.note (.requested c q) } := by
  have hopen : openClients a.session.history = [c] := by
    rcases h.holders with ⟨-, hslot, -⟩ | ⟨-, d, hslot, hopen⟩
    · rw [hslot] at hc; cases hc
    · rw [hslot] at hc
      rw [hopen, Option.some.inj hc]
  refine ⟨h.lawful.note hopen, ?_, below_note h.below rfl, ?_⟩
  · simp only [slotAfter_note]; exact h.slot_eq
  · simp only [openClients_note]; exact h.holders

/-- The client in the slot is taken out and closed. -/
theorem close (h : Held (n + 1) a) : ∃ c, a.slot = .holding c ∧
    Held n { a.setSlot .empty with session := (a.setSlot .empty).session.note (.closed c) } := by
  obtain ⟨rfl, c, hslot, hopen⟩ := h.busy
  have hclients : openClients (a.setSlot .empty).session.history = [c] := by
    simp only [Sender.setSlot, openClients_note, hopen]; rfl
  have hlawful : Lawful (a.setSlot .empty).session.history := h.lawful.note (.inl rfl)
  refine ⟨c, hslot, hlawful.note hclients, ?_, below_note (below_note h.below rfl) rfl,
    .inl ⟨rfl, rfl, ?_⟩⟩
  · simp only [Sender.setSlot, slotAfter_note]; rfl
  · simp only [openClients_note, hclients]; simp [Event.openAfter]

end Sender.Held

/-! ### Operations -/

/-- The number of times that a pending send holds the publisher: once if it opened a client for
itself. -/
def Pending.holders (p : Pending) : Nat := if p.ownClient then 1 else 0

theorem Session.open?_cases (s : Session) (settings : Context) :
    (∃ fault, s.open? settings = (.error fault, (s.note (.created settings)).note .notOpened)) ∨
      s.open? settings =
        (.ok s.created.length, (s.note (.created settings)).note (.opened s.created.length)) := by
  unfold Session.open?
  simp only []
  split
  · exact .inl ⟨_, rfl⟩
  · exact .inr rfl

theorem Session.close_history (s : Session) (n : Nat) : (s.close n).2 = s.note (.closed n) := by
  unfold Session.close
  split <;> rfl

theorem report_held {P : Sender → Prop} (fields : Context) (fault : Fault) :
    Carries P (if fault.preventsOpening then do
        Log.write logger .error "Cannot open SQS client" fields
        throw (.publisherUnavailable fault.message)
      else throw fault : Action Sender Nat) (Ends (fun _ _ => False) fun _ => P) := by
  split
  · exact Carries.bind_action (carries_ofLogged _).ends fun _ => carries_pure _ fun _ => id
  · exact carries_pure _ fun _ => id

/-- Occupying an empty slot makes a holder, unless it fails. -/
theorem occupy_held : Carries (Sender.Held 0) occupy
    (Ends (fun c a => Sender.Held 1 a ∧ a.slot = .holding c) fun _ => Sender.Held 0) := by
  intro r hr
  unfold occupy
  rw [except_bind_at]
  simp only [Action.publisher]
  rw [except_bind_at]
  simp only [Action.attempt, onSession]
  rcases r.publisher.session.open?_cases r.publisher.settings with ⟨fault, hopen⟩ | hopen
  · rw [hopen]
    exact ((report_held _ fault).ends_imp (fun _ _ => False.elim) fun _ _ => id) ⟨r.log, _⟩
      (hr.fail r.publisher.settings)
  · rw [hopen]
    exact ⟨hr.fill r.publisher.settings, rfl⟩

theorem leave_held (n : Nat) : Carries (Sender.Held (n + 1)) leave fun _ => Sender.Held n := by
  intro r hr
  obtain ⟨c, hc, hheld⟩ := Sender.Held.close hr
  have hrun : (leave r).2.publisher = { r.publisher.setSlot .empty with
      session := ((r.publisher.setSlot .empty).session.close c).2 } := by
    unfold leave
    rw [except_bind_at]
    simp only [Action.publisher]
    rw [except_bind_at]
    simp only [Action.setPublisher, hc]
    rfl
  rw [hrun, Session.close_history]
  exact hheld

theorem ask_held {n : Nat} (m : Message) {c : Nat} (own : Bool) :
    Carries (fun a => Sender.Held n a ∧ a.slot.client = some c) (ask m c own)
      (Ends (fun answer a => Sender.Held n a ∧ answer.2.ownClient = own) fun _ => Sender.Held n) := by
  intro r hr
  unfold ask
  rw [except_bind_at]
  cases hq : m.request with
  | error fault => exact hr.1
  | ok q => exact ⟨hr.1.request hr.2 q, rfl⟩

/-- A send that finds the slot empty makes a holder of its own. -/
theorem begin_held (n : Nat) (m : Message) : Carries (Sender.Held n) (begin m)
    (Ends (fun answer => Sender.Held (n + answer.2.holders)) fun _ => Sender.Held n) := by
  intro r hr
  unfold begin
  rw [except_bind_at]
  simp only [Action.publisher]
  cases hc : r.publisher.slot.client with
  | some c =>
    refine (ask_held m false).ends_imp (fun answer a ha => ?_) (fun _ _ => id) r ⟨hr, hc⟩
    simp only [Pending.holders, ha.2]
    exact ha.1
  | none =>
    obtain rfl : n = 0 := by
      rcases hr.holders with ⟨h0, -⟩ | ⟨-, c, hslot, -⟩
      · exact h0
      · rw [hslot] at hc; cases hc
    have hoccupy : Carries (Sender.Held 0) occupy (Ends
        (fun c a => Sender.Held 1 a ∧ a.slot.client = some c) fun _ => Sender.Held 0) :=
      occupy_held.ends_imp (fun c a ha => ⟨ha.1, by rw [ha.2]; rfl⟩) fun _ _ => id
    refine Carries.bind_action hoccupy (fun c => ?_) r hr
    refine Carries.onFault (R := Sender.Held 1) ?_ ((leave_held 0).post fun _ a ha _ => ha)
    refine (ask_held m true).ends_imp (fun answer a ha => ?_) fun _ _ => id
    simp only [Ends, Pending.holders, ha.2]
    exact ha.1

theorem finish_held (n : Nat) (pending : Pending) :
    Carries (Sender.Held (n + pending.holders)) (finish pending) fun _ => Sender.Held n := by
  unfold finish Pending.holders
  cases pending.ownClient with
  | true => exact Carries.andFinally (carries_ofLogged _) (leave_held n)
  | false => exact carries_ofLogged _

theorem abandon_held (n : Nat) (pending : Pending) :
    Carries (Sender.Held (n + pending.holders)) (abandon pending) fun _ => Sender.Held n := by
  unfold abandon Pending.holders
  cases pending.ownClient with
  | true => exact leave_held n
  | false => exact carries_pure _ fun _ => id

/-- **The SQS publisher counts its holders.** -/
theorem counts_holding : publisher.Counts Sender.Held Pending.holders where
  enter := Carries.bind_action (R := fun _ => Sender.Held 1)
    (occupy_held.ends_imp (fun _ _ ha => ha.1) fun _ _ => id) fun _ => carries_pure _ fun _ => id
  leave := leave_held
  begin := begin_held
  finish := finish_held
  abandon := abandon_held
  le_one n a h := by
    rcases h.holders with ⟨h0, -⟩ | ⟨h1, -⟩
    · omega
    · omega

/-- **The life of a client.** In the history of an invocation, whatever its argument, its log and the
script of its session: at each moment at most one client is open, and the slot has a client exactly
if it has one to close; a request is made on the open client; when a client could not be created or
opened, none is open and the slot is empty. At the end the clients opened, none of them twice, have
been closed in the order in which they were opened. -/
theorem serve_keeps_clients (expected : Value) (context : Context) (arg : Value) (log : Log)
    (region endpointUrl : Value) (script : Script) :
    let a := (Invocation.serve publisher expected context arg
      ⟨log, .new region endpointUrl script⟩).2.publisher
    (∀ moment, moment <+: a.session.history →
      (openClients moment).length ≤ 1 ∧
        ((slotAfter moment).client = none ↔ (slotAfter moment).toClose = none)) ∧
    (∀ moment c q, moment ++ [.requested c q] <+: a.session.history → c ∈ openClients moment) ∧
    (∀ moment, moment ++ [.notOpened] <+: a.session.history →
      openClients (moment ++ [.notOpened]) = [] ∧ slotAfter (moment ++ [.notOpened]) = .empty) ∧
    a.session.closed = a.session.opened ∧ a.session.opened.Nodup ∧
    a.slot = .empty ∧ slotAfter a.session.history = .empty := by
  intro a
  have ha : Sender.Held 0 a := counts_holding.serve_counts expected context arg _
    (Sender.Held.of_new region endpointUrl script)
  obtain ⟨hslot, hopen⟩ := ha.idle
  refine ⟨fun moment hm => ?_, fun moment c q hm => ?_, fun moment hm => ?_, ?_,
    ha.lawful.opened_nodup, hslot, by rw [← ha.slot_eq, hslot]⟩
  · obtain ⟨hone, hslots⟩ := (ha.lawful.of_prefix hm).moment
    refine ⟨hone, ?_⟩
    rcases hslots with h | ⟨c, h⟩
    · simp [h, Slot.empty]
    · simp [h, Slot.holding]
  · rw [show openClients moment = [c] from ha.lawful moment _ hm]
    exact List.mem_singleton.mpr rfl
  · obtain ⟨hnone, hempty⟩ : openClients moment = [] ∧ slotAfter moment = .empty :=
      ha.lawful moment _ hm
    rw [openClients_concat, slotAfter_concat, hnone, hempty]
    exact ⟨rfl, rfl⟩
  · have heq := ha.lawful.opened_eq
    rw [hopen, List.append_nil] at heq
    exact heq.symm

end StreamRelay.Sqs
