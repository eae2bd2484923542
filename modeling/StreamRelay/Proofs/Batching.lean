import Mathlib.Data.List.Perm.Basic
import StreamRelay.Invocation
import StreamRelay.Proofs.Delivery

/-!
# Batches and their totals

Records may be sent in one batch, or in any order, cut into batches that are run one after another,
each with the queues in an order of its own (`Cut`). Where the step of a send depends on its
destination alone (`Memory.Script.ByDestination`), this makes no difference to the totals: the tally
of some messages does not depend on their numbers (`Memory.Script.ByDestination.tally_eq`), queues in
another order have the messages of a record in another order (`StreamRecord.due_perm`), and a batch
leaves nothing behind that the next would notice (`Memory.runAll_cut`).
-/

namespace StreamRelay

open StreamRecord FanOut

def FanOut.runAll {σ π : Type} (p : Publisher σ π) (expected : Value) :
    List Batch → StateM (Relay σ) (List (Except Fault Tally))
  | [] => return []
  | batch :: batches => do
    return (← run p expected batch.queues batch.records) :: (← runAll p expected batches)

def Tally.sum : List Tally → Tally
  | [] => .zero
  | t :: ts => ⟨t.successes + (sum ts).successes, t.failures + (sum ts).failures⟩

/-- Batches that have some records one after another, each with the queues `qs` in an order of its
own. -/
inductive Cut (qs : List Value) : List Batch → List Value → Prop where
  | nil : Cut qs [] []
  | cons {batch : Batch} {batches : List Batch} {qs' raws raws' : List Value}
    (hqueues : batch.queues.members? = some qs') (hperm : qs'.Perm qs)
    (hrecords : batch.records.members? = some raws) (hrest : Cut qs batches raws') :
    Cut qs (batch :: batches) (raws ++ raws')

/-! ### Messages -/

theorem StreamRecord.due_perm {qs qs' : List Value} (h : qs'.Perm qs) (expected raw : Value) :
    (due qs' expected raw).Perm (due qs expected raw) := by
  unfold due
  split
  · rename_i image _
    rw [Image.messagesTo_result, Image.messagesTo_result]
    cases image.payload?.result with
    | error fault => exact List.Perm.refl _
    | ok payload => exact h.map _
  · exact List.Perm.refl _

namespace Memory

/-! ### Steps by destination -/

/-- No opening has a fault, and no step is given by the number of a send. -/
structure Script.ByDestination (script : Script) : Prop where
  opens : ∀ fault? ∈ script.opens, fault? = none
  sends : ∀ step? ∈ script.sends, step? = none

namespace Script

variable {script : Script}

theorem join_getElem?_of_none {α : Type} {l : List (Option α)} (h : ∀ a ∈ l, a = none) (n : Nat) :
    (l[n]?).join = none := by
  cases ha : l[n]? with
  | none => rfl
  | some a =>
    rw [h a (List.mem_of_getElem? ha)]
    rfl

/-- The send of a message counts as a success, whatever its number. -/
def succeedsTo (script : Script) (m : Message) : Bool := script.succeeds (m, 0)

/-- The tally of messages, whatever their numbers. -/
def tallyTo (script : Script) (ms : List Message) : Tally :=
  ⟨ms.countP script.succeedsTo, ms.countP (!script.succeedsTo ·)⟩

theorem tallyTo_append (script : Script) (ms ms' : List Message) :
    script.tallyTo (ms ++ ms') = Tally.sum [script.tallyTo ms, script.tallyTo ms'] := by
  simp only [tallyTo, Tally.sum, Tally.zero, List.countP_append, Int.natCast_add, Int.add_zero]

theorem tallyTo_perm (script : Script) {ms ms' : List Message} (h : ms.Perm ms') :
    script.tallyTo ms = script.tallyTo ms' := by
  rw [tallyTo, tallyTo, h.countP_eq, h.countP_eq]

theorem ByDestination.succeeds_eq (h : script.ByDestination) (m : Message) (n : Nat) :
    script.succeeds (m, n) = script.succeedsTo m := by
  simp only [succeedsTo, succeeds, step, join_getElem?_of_none h.sends]

theorem ByDestination.countP_zipIdx (h : script.ByDestination) (f : Bool → Bool) :
    ∀ (ms : List Message) (n : Nat),
      (ms.zipIdx n).countP (fun send => f (script.succeeds send)) =
        ms.countP fun m => f (script.succeedsTo m)
  | [], _ => rfl
  | m :: ms, n => by
    rw [List.zipIdx_cons, List.countP_cons, List.countP_cons, h.countP_zipIdx f ms, h.succeeds_eq]

theorem ByDestination.tally_eq (h : script.ByDestination) (n : Nat) (ms : List Message) :
    script.tally n ms = script.tallyTo ms := by
  have hsuccesses := h.countP_zipIdx id ms n
  have hfailures := h.countP_zipIdx not ms n
  simp only [id] at hsuccesses
  simp only [tally, tallyTo, hsuccesses, hfailures]

end Script

/-! ### Runs -/

/-- Batches that are run one after another give tallies that add up to that of all messages due. -/
theorem runAll_cut {expected : Value} {qs : List Value} {batches : List Batch} {raws : List Value}
    (hcut : Cut qs batches raws) (hab : ∀ raw ∈ raws, aborts raw expected = false)
    (b : Context) (es : List Log.Entry) (s : Store) (hs : s.script.ByDestination) :
    ∃ (tallies : List Tally) (sent : List Message) (b' : Context) (es' : List Log.Entry) (t : Store),
      FanOut.runAll publisher expected batches (Relay.keeping b es s) =
        (tallies.map .ok, Relay.keeping b' es' t) ∧
      Tally.sum tallies = s.script.tallyTo sent ∧
      t.sent = s.sent ++ sent ∧ sent.Perm (raws.flatMap (due qs expected)) := by
  induction hcut generalizing b es s with
  | nil => exact ⟨[], [], b, es, s, rfl, rfl, (List.append_nil _).symm, List.Perm.refl _⟩
  | @cons batch batches qs' raws raws' hqueues hperm hrecords hrest ih =>
    have hopen : s.openFault? = none := Script.join_getElem?_of_none hs.opens _
    have hab₁ : ∀ raw ∈ raws, aborts raw expected = false := fun raw hraw =>
      hab raw (List.mem_append_left _ hraw)
    have hserving := serving_settled b es s expected batch.queues hqueues hab₁
    have hrun : FanOut.run publisher expected batch.queues batch.records (Relay.keeping b es s) = _ :=
      run_of_no_abort publisher.leave b es s expected batch.queues hrecords hopen hqueues hab₁
    obtain ⟨b₁, es₁, s₁, hs₁⟩ : ∃ b₁ es₁ s₁, settled batch.queues expected raws b es s =
      Relay.keeping b₁ es₁ s₁ := ⟨_, _, _, rfl⟩
    rw [hs₁] at hserving hrun
    rw [leave_run] at hrun
    obtain ⟨tallies, sent, b', es', t, hall, htally, hsent, hmessages⟩ :=
      ih (fun raw hraw => hab raw (List.mem_append_right _ hraw)) b₁ es₁ s₁.leave
        (hserving.script ▸ hs)
    rw [show s₁.leave.script = s.script from hserving.script] at htally
    refine ⟨s.script.tally s.sent.length (raws.flatMap (due qs' expected)) :: tallies,
      raws.flatMap (due qs' expected) ++ sent, b', es', t, ?_, ?_, ?_, ?_⟩
    · rw [FanOut.runAll, bind_at, hrun, bind_at, hall]
      rfl
    · rw [Script.tallyTo_append, ← htally, hs.tally_eq]
      simp only [Tally.sum, Tally.zero, Int.add_zero]
    · rw [hsent, show s₁.leave.sent = _ from hserving.sent, List.append_assoc]
      rfl
    · rw [List.flatMap_append]
      exact (List.Perm.flatMap_left raws fun raw _ => due_perm hperm expected raw).append hmessages

/-- **Totals do not depend on batching or order.** Records on which no decision fails are put into
any order and cut into batches, each with the queues in an order of its own. Run one after another on
a memory publisher whose steps go by destination, the batches give tallies that add up to that of one
run on all records, and the same messages are sent, in another order at most. -/
theorem runAll_totals {queues records expected : Value} {qs raws shuffled : List Value}
    {batches : List Batch} {relay relay' : Relay Store} (hlog : relay.log.Keeps)
    (hlog' : relay'.log.Keeps) (hscript : relay.publisher.script.ByDestination)
    (hsame : relay'.publisher.script = relay.publisher.script)
    (hqs : queues.members? = some qs) (hraws : records.members? = some raws)
    (hdec : ∀ raw ∈ raws, ∃ d, ((ofValue raw).decision expected).result = .ok d)
    (hperm : shuffled.Perm raws) (hcut : Cut qs batches shuffled) :
    let one := FanOut.run publisher expected queues records relay
    let all := FanOut.runAll publisher expected batches relay'
    ∃ (tallies : List Tally) (messages messages' : List Message),
      all.1 = tallies.map .ok ∧ one.1 = .ok (Tally.sum tallies) ∧
      one.2.publisher.sent = relay.publisher.sent ++ messages ∧
      all.2.publisher.sent = relay'.publisher.sent ++ messages' ∧ messages'.Perm messages := by
  intro one all
  have hab := forall_decides_iff.mp hdec
  have hopen : relay.publisher.openFault? = none := Script.join_getElem?_of_none hscript.opens _
  have hserving := serving_settled relay.log.bound relay.log.entries relay.publisher expected queues
    hqs hab
  have hone := run_of_no_abort publisher.leave relay.log.bound relay.log.entries relay.publisher
    expected queues hraws hopen hqs hab
  obtain ⟨tallies, messages', b', es', s', hall, htally, hsent', hmessages⟩ :=
    runAll_cut hcut (fun raw hraw => hab raw (hperm.mem_iff.mp hraw)) relay'.log.bound
      relay'.log.entries relay'.publisher (hsame ▸ hscript)
  rw [← Relay.eq_keeping hlog] at hone
  rw [← Relay.eq_keeping hlog'] at hall
  have hmessages := hmessages.trans (hperm.flatMap_right (due qs expected))
  rw [hsame, Script.tallyTo_perm _ hmessages, ← hscript.tally_eq relay.publisher.sent.length]
    at htally
  rw [show one = _ from hone, show all = _ from hall]
  exact ⟨tallies, _, messages', rfl, congrArg Except.ok htally.symm, hserving.sent, hsent',
    hmessages⟩

/-- Two accepted records with a skipped one between them, and the last of them sent first, to the
queues the other way round; a batch without records stands between the two. -/
theorem runAll_totals_last_first :
    let changed := sample "PHgvPg==" "AQ==" "Ag=="
    let unchanged := sample "PHgvPg==" "AQ==" "AQ=="
    let other := sample "PHkvPg==" "Aw==" "Ag=="
    let raws := [changed, unchanged, other]
    let qs : List Value := [.text "q1", .text "q2"]
    let batches : List Batch := [⟨.list qs.reverse, .list [other]⟩, ⟨.list qs, .tuple []⟩,
      ⟨.tuple qs, .list [changed, unchanged]⟩]
    let late : Step := ⟨1, none, .int 1, none, .null⟩
    let refused : Step := ⟨0, none, .null, none, .text "refused"⟩
    let relay : Relay Store :=
      ⟨Log.empty, .ofScript ⟨[], [("q1", late), ("q2", refused)], []⟩⟩
    let one := FanOut.run publisher (.text "aws:dynamodb") (.tuple qs) (.list raws) relay
    let all := FanOut.runAll publisher (.text "aws:dynamodb") batches relay
    (relay.log.Keeps ∧ relay.publisher.script.ByDestination ∧
      (∀ raw ∈ raws, ∃ d, ((ofValue raw).decision (.text "aws:dynamodb")).result = .ok d) ∧
      [other, changed, unchanged].Perm raws ∧ Cut qs batches [other, changed, unchanged]) ∧
    raws.countP (accepts (.text "aws:dynamodb")) = 2 ∧
    ∃ tallies : List Tally, all.1 = tallies.map .ok ∧ one.1 = .ok (Tally.sum tallies) := by
  intro changed unchanged other raws qs batches late refused relay one all
  have hscript : relay.publisher.script.ByDestination := ⟨by simp [relay, Store.ofScript],
    by simp [relay, Store.ofScript]⟩
  have hab : ∀ raw ∈ raws, aborts raw (.text "aws:dynamodb") = false := by decide
  have hdec : ∀ raw ∈ raws, ∃ d,
      ((ofValue raw).decision (.text "aws:dynamodb")).result = .ok d := forall_decides_iff.mpr hab
  have hperm : [other, changed, unchanged].Perm raws :=
    @List.perm_append_comm _ [other] [changed, unchanged]
  have hcut : Cut qs batches ([other] ++ ([] ++ ([changed, unchanged] ++ []))) :=
    .cons rfl qs.reverse_perm rfl (.cons rfl (.refl _) rfl (.cons rfl (.refl _) rfl .nil))
  obtain ⟨tallies, -, -, hall, hone, -⟩ :=
    runAll_totals (show relay.log.Keeps from Log.keeps_empty) Log.keeps_empty hscript rfl
      (show (Value.tuple qs).members? = some qs from rfl)
      (show (Value.list raws).members? = some raws from rfl) hdec hperm hcut
  exact ⟨⟨Log.keeps_empty, hscript, hdec, hperm, hcut⟩, by decide, tallies, hall, hone⟩

end Memory

end StreamRelay
