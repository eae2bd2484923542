import StreamRelay.Proofs.Course
import StreamRelay.Proofs.Outcomes

/-!
# Invocations go in steps

Every part of an invocation that works on tasks goes in steps on these tasks alone, whatever others
stand before and after them (`Moment.Goes`): a round turns each task once (`round_goes`), the end of a
delivery is followed by its drain (`await_goes`, `drain_goes`). So an invocation, whatever its
argument, its publisher and its log do, takes a course from the moment at which its batch is still to
be offered to the moment at which it ends (`serve_course`).
-/

namespace StreamRelay

open Relay FanOut

variable {σ π α β : Type} {p : Publisher σ π} {queues expected : Value}

namespace Moment

theorem Course.trans {m m' m'' : Moment σ π} {ls ls' : List (Option Value × Log.Entry)}
    (h : Course p queues expected m ls m') (h' : Course p queues expected m' ls' m'') :
    Course p queues expected m (ls ++ ls') m'' := by
  induction h with
  | done m => exact h'
  | step hstep hrest ih =>
    rw [List.append_assoc]
    exact .step hstep (ih h')

def Leads (p : Publisher σ π) (queues expected : Value) (m m' : Moment σ π) : Prop :=
  ∃ ls, Course p queues expected m ls m'

theorem Leads.refl (m : Moment σ π) : Leads p queues expected m m := ⟨[], .done m⟩

theorem Leads.trans {m m' m'' : Moment σ π} (h : Leads p queues expected m m')
    (h' : Leads p queues expected m' m'') : Leads p queues expected m m'' := by
  obtain ⟨ls, h⟩ := h
  obtain ⟨ls', h'⟩ := h'
  exact ⟨ls ++ ls', h.trans h'⟩

theorem Step.leads {who : Option Value} {m m' : Moment σ π} (h : Step p queues expected who m m') :
    Leads p queues expected m m' := ⟨_, .step h (.done m')⟩

/-- A computation on some of the tasks is a course in which no other task has a turn; `f` relates what
it gives to what becomes of these tasks. -/
def Goes (p : Publisher σ π) (queues expected : Value) (ts : List (Value × Task π))
    (x : StateM (Relay σ) α) (f : α → List (Value × Task π) → Prop) : Prop :=
  ∀ relay toOffer before after, ∃ ts',
    Leads p queues expected ⟨relay, toOffer, before ++ ts ++ after⟩
      ⟨(x relay).2, toOffer, before ++ ts' ++ after⟩ ∧ f (x relay).1 ts'

variable {ts : List (Value × Task π)}

theorem goes_pure {f : α → List (Value × Task π) → Prop} (a : α) (h : f a ts) :
    Goes p queues expected ts (pure a : StateM (Relay σ) α) f :=
  fun _ _ _ _ => ⟨ts, .refl _, h⟩

theorem Goes.bind {x : StateM (Relay σ) α} {y : α → StateM (Relay σ) β}
    {f : α → List (Value × Task π) → Prop} {g : β → List (Value × Task π) → Prop}
    (hx : Goes p queues expected ts x f)
    (hy : ∀ a ts', f a ts' → Goes p queues expected ts' (y a) g) :
    Goes p queues expected ts (x >>= y) g := by
  intro relay toOffer before after
  obtain ⟨ts', hleads, hf⟩ := hx relay toOffer before after
  obtain ⟨ts'', hleads', hg⟩ := hy _ ts' hf (x relay).2 toOffer before after
  exact ⟨ts'', hleads.trans hleads', hg⟩

/-- Other tasks stay as they are. -/
theorem Goes.frame {x : StateM (Relay σ) α} {f : α → List (Value × Task π) → Prop}
    (hx : Goes p queues expected ts x f) (us vs : List (Value × Task π)) :
    Goes p queues expected (us ++ ts ++ vs) x
      fun a ts' => ∃ ts'', ts' = us ++ ts'' ++ vs ∧ f a ts'' := by
  intro relay toOffer before after
  obtain ⟨ts', hleads, hf⟩ := hx relay toOffer (before ++ us) (vs ++ after)
  refine ⟨us ++ ts' ++ vs, ?_, ts', rfl, hf⟩
  simpa only [List.append_assoc] using hleads

theorem Goes.alone {x : StateM (Relay σ) α} {f : α → List (Value × Task π) → Prop}
    (hx : Goes p queues expected ts x f) (relay : Relay σ) (toOffer : List Value) :
    ∃ ts', Leads p queues expected ⟨relay, toOffer, ts⟩ ⟨(x relay).2, toOffer, ts'⟩ ∧
      f (x relay).1 ts' := by
  obtain ⟨ts', hleads, hf⟩ := hx relay toOffer [] []
  exact ⟨ts', by simpa using hleads, hf⟩

theorem goes_quiet {x : StateM (Relay σ) α}
    (h : ∀ m : Moment σ π, Step p queues expected none m { m with relay := (x m.relay).2 }) :
    Goes p queues expected ts x fun _ ts' => ts' = ts :=
  fun _ _ _ _ => ⟨ts, (h _).leads, rfl⟩

/-! ### Tasks -/

theorem turn_goes (raw : Value) (t : Task π) :
    Goes p queues expected [(raw, t)] (t.turn p) fun t' ts' => ts' = [(raw, t')] := by
  intro relay toOffer before after
  have hstep : Step p queues expected (some raw) ⟨relay, toOffer, before ++ (raw, t) :: after⟩
    ⟨(t.turn p relay).2, toOffer, before ++ (raw, (t.turn p relay).1) :: after⟩ :=
    .turn relay toOffer before after raw t
  refine ⟨_, ?_, rfl⟩
  simpa using hstep.leads

/-- A round gives each task one turn. -/
theorem round_goes : ∀ ts : List (Value × Task π),
    Goes p queues expected ts (Task.round p (ts.map Prod.snd)) fun us ts' => ts'.map Prod.snd = us
  | [] => goes_pure _ rfl
  | (raw, t) :: ts => by
    refine ((turn_goes raw t).frame [] ts).bind fun t' ts' => ?_
    rintro ⟨_, rfl, rfl⟩
    have hrest := (round_goes ts).frame [(raw, t')] []
    rw [List.append_nil] at hrest
    refine hrest.bind fun us ts' => ?_
    rintro ⟨us', rfl, rfl⟩
    exact goes_pure _ (by simp)

theorem round_among_goes {all : List (Value × Task π)} (us ts vs : List (Value × Task π))
    (h : all = us ++ ts ++ vs) :
    Goes p queues expected all (Task.round p (ts.map Prod.snd)) fun rs ts' =>
      ∃ ts'', ts' = us ++ ts'' ++ vs ∧ ts''.map Prod.snd = rs := by
  rw [h]
  exact (round_goes ts).frame us vs

theorem rounds_goes : ∀ (n : Nat) (ts : List (Value × Task π)),
    Goes p queues expected ts (Task.rounds p n (ts.map Prod.snd)) fun us ts' =>
      ts'.map Prod.snd = us
  | 0, _ => goes_pure _ rfl
  | n + 1, ts => by
    rw [Task.rounds]
    split
    · exact goes_pure _ rfl
    · refine (round_goes ts).bind fun us ts' => ?_
      rintro rfl
      exact rounds_goes n ts'

theorem settle_goes (ts : List (Value × Task π)) :
    Goes p queues expected ts (Task.settle p (ts.map Prod.snd)) fun us ts' =>
      ts'.map Prod.snd = us := by
  refine (round_goes ts).bind fun us ts' => ?_
  rintro rfl
  exact rounds_goes _ ts'

theorem cancelAll_goes : ∀ ts us : List (Value × Task π),
    Goes p queues expected (us ++ ts) (Task.cancelAll p (ts.map Prod.snd)) fun _ ts' =>
      ts' = us ++ ts
  | [], us => goes_pure _ rfl
  | (raw, t) :: ts, us => by
    have hcancel : Goes p queues expected (us ++ (raw, t) :: ts) (t.cancel p) fun _ ts' =>
        ts' = us ++ (raw, t) :: ts := by
      intro relay toOffer before after
      have hstep : Step p queues expected (some raw)
          ⟨relay, toOffer, before ++ (us ++ (raw, t) :: ts) ++ after⟩
          ⟨(t.cancel p relay).2, toOffer, before ++ (us ++ (raw, t) :: ts) ++ after⟩ :=
        .cancel _ raw t (by simp)
      exact ⟨_, hstep.leads, rfl⟩
    refine hcancel.bind fun _ ts' => ?_
    rintro rfl
    have hrest := cancelAll_goes ts (us ++ [(raw, t)])
    rwa [List.append_assoc, List.singleton_append] at hrest

/-! ### The end of a delivery -/

/-- The tasks of an ending, and others before them that have nothing more to do. -/
def Left (e : Ending π α) (ts : List (Value × Task π)) : Prop :=
  ∃ past bs cs, ts = past ++ bs ++ cs ∧ bs.map Prod.snd = e.before ∧ cs.map Prod.snd = e.after

theorem left_clear (result : Except Fault α) (ts : List (Value × Task π)) :
    Left (.clear result) ts := ⟨ts, [], [], by simp, rfl, rfl⟩

theorem leave_goes (result : Except Fault α) (ts : List (Value × Task π)) :
    Goes p queues expected ts (FanOut.leave p result) fun _ ts' => ts' = ts := by
  have hrelay (r : Relay σ) : (FanOut.leave p result r).2 = (p.leave r).2 := by
    show (Action.andFinally (ExceptT.mk (pure result)) p.leave r).2 = _
    unfold Action.andFinally
    simp only [show (ExceptT.mk (pure result) : Action σ α) r = (result, r) from rfl]
    rcases p.leave r with ⟨_ | _, r'⟩ <;> rfl
  refine goes_quiet fun m => ?_
  rw [hrelay]
  exact .leave m

theorem await_goes (ts : List (Value × Task π)) :
    Goes p queues expected ts (FanOut.await p (ts.map Prod.snd)) Left := by
  refine (settle_goes ts).bind fun settled ts₁ => ?_
  rintro rfl
  split
  · exact (leave_goes _ ts₁).bind fun _ ts₂ _ => goes_pure _ (left_clear _ ts₂)
  · obtain ⟨place, hplace⟩ : ∃ place, place =
        (ts₁.map Prod.snd).findIdx fun t => t.fault?.isSome := ⟨_, rfl⟩
    simp only [← hplace]
    refine (round_goes ts₁).bind fun late ts₂ => ?_
    rintro rfl
    -- The tasks before the first that raised have one more round; the rest is left to the drain.
    rw [← List.map_take]
    refine (round_among_goes [] (ts₂.take place) (ts₂.drop place) (by simp)).bind
      fun before ts₃ => ?_
    rintro ⟨bs, rfl, rfl⟩
    refine (leave_goes _ _).bind fun result ts₄ => ?_
    rintro rfl
    exact goes_pure _ ⟨[], bs, ts₂.drop place, rfl, rfl, List.map_drop⟩

theorem close_goes (ts : List (Value × Task π)) (fault? : Option Fault) :
    Goes p queues expected ts (FanOut.close p (ts.map Prod.snd) fault?) Left := by
  cases fault? with
  | none => exact await_goes ts
  | some fault =>
    refine (leave_goes _ ts).bind fun result ts' => ?_
    rintro rfl
    exact goes_pure _ ⟨[], ts', [], by simp, rfl, rfl⟩

theorem drain_goes {e : Ending π α} {ts : List (Value × Task π)} (h : Left e ts) :
    Goes p queues expected ts (e.drain p) fun _ _ => True := by
  obtain ⟨past, bs, cs, rfl, hbs, hcs⟩ := h
  unfold Ending.drain
  rw [← hbs, ← hcs]
  refine (round_among_goes (past ++ bs) cs [] (by simp)).bind fun after ts' => ?_
  rintro ⟨cs', rfl, rfl⟩
  rw [← List.map_append]
  refine (round_among_goes past (bs ++ cs') [] (by simp)).bind fun last ts' => ?_
  rintro ⟨ts'', rfl, rfl⟩
  rw [List.append_nil]
  exact (cancelAll_goes ts'' past).bind fun _ _ _ => goes_pure _ trivial

/-! ### Deliveries -/

theorem offerAll_leads : ∀ (raws : List Value) (log : Log) (s : σ) (tasks : List (Value × Task π)),
    ∃ toOffer new, Leads p queues expected ⟨⟨log, s⟩, raws, tasks⟩
        ⟨⟨(offerAll (π := π) queues expected raws log).2, s⟩, toOffer, tasks ++ new⟩ ∧
      new.map Prod.snd = (offerAll queues expected raws log).1.1
  | [], log, s, tasks => ⟨[], [], by rw [List.append_nil]; exact .refl _, rfl⟩
  | raw :: raws, log, s, tasks => by
    have hfirst : Leads p queues expected ⟨⟨log, s⟩, raw :: raws, tasks⟩
        ⟨⟨(offer (π := π) queues expected raw log).2, s⟩, raws,
          tasks ++ tasksFor raw (offer queues expected raw log).1⟩ :=
      (Step.offer ⟨log, s⟩ raw raws tasks).leads
    rw [offerAll, bind_at]
    rcases ho : (offer (π := π) queues expected raw).run log with ⟨fault | ts, log'⟩
    · rw [show offer (π := π) queues expected raw log = _ from ho] at hfirst
      exact ⟨raws, [], hfirst, rfl⟩
    · rw [show offer (π := π) queues expected raw log = _ from ho] at hfirst
      obtain ⟨toOffer, new, hrest, hnew⟩ := offerAll_leads raws log' s (tasks ++ ts.map (raw, ·))
      refine ⟨toOffer, ts.map (raw, ·) ++ new, ?_, ?_⟩
      · rw [← List.append_assoc]
        exact hfirst.trans hrest
      · rw [List.map_append, hnew, List.map_map]
        exact congrArg (· ++ _) (List.map_id ts)

theorem deliver_leads {records : Value} {raws : List Value} (hraws : records.members? = some raws)
    (relay : Relay σ) :
    ∃ toOffer ts, Leads p queues expected ⟨relay, raws, []⟩
        ⟨(FanOut.deliver p expected queues records relay).2, toOffer, ts⟩ ∧
      Left (FanOut.deliver p expected queues records relay).1 ts := by
  have henter : Leads p queues expected ⟨relay, raws, []⟩ ⟨(p.enter relay).2, raws, []⟩ :=
    (Step.enter ⟨relay, raws, []⟩).leads
  rw [FanOut.deliver, bind_at, Value.items?_of_members? hraws]
  rcases hr : p.enter.run relay with ⟨fault | u, relay'⟩
  · rw [show p.enter relay = (.error fault, relay') from hr] at henter
    exact ⟨raws, [], henter, left_clear _ _⟩
  · rw [show p.enter relay = (.ok u, relay') from hr] at henter
    obtain ⟨toOffer, new, hoffer, hnew⟩ := offerAll_leads raws relay'.log relay'.publisher []
    obtain ⟨ts', hclose, hleft⟩ := (close_goes new
      (offerAll (π := π) queues expected raws relay'.log).1.2).alone
      ⟨(offerAll (π := π) queues expected raws relay'.log).2, relay'.publisher⟩ toOffer
    rw [hnew] at hclose hleft
    exact ⟨toOffer, ts', (henter.trans hoffer).trans hclose, hleft⟩

/-! ### Invocations -/

open Invocation

variable (p expected) (arg : Value)

theorem answer_leads (relay : Relay σ) :
    ∃ toOffer ts, Leads p (batchOf arg).queues expected ⟨relay, (batchAt arg).getD [], []⟩
        ⟨(answer p expected arg relay).2, toOffer, ts⟩ ∧ Left (answer p expected arg relay).1 ts := by
  obtain ⟨raws, hraws⟩ : ∃ raws, raws = (batchAt arg).getD [] := ⟨_, rfl⟩
  have hcheck : Leads p (batchOf arg).queues expected ⟨relay, raws, []⟩
      ⟨(onLog (check arg).run relay).2, raws, []⟩ := (Step.check arg ⟨relay, raws, []⟩).leads
  rw [← hraws, answer, bind_at]
  rcases hr : onLog (check arg).run relay with ⟨fault | outcome | batch, relay'⟩
  · rw [hr] at hcheck
    exact ⟨raws, [], hcheck, left_clear _ _⟩
  · rw [hr] at hcheck
    exact ⟨raws, [], hcheck, left_clear _ _⟩
  · rw [hr] at hcheck
    have hok : (check arg relay.log).1 = .ok (.ok batch) := congrArg Prod.fst hr
    obtain ⟨-, rs, hrs, -⟩ := stop?_eq_none.mp (stop?_of_check_ok hok)
    have hmembers : (batchOf arg).records.members? = some raws := by
      rw [hraws, hrs]
      exact (members?_batch_event arg).trans hrs
    obtain rfl := check_eq_ok hok
    obtain ⟨toOffer, ts, hdeliver, hleft⟩ := deliver_leads hmembers relay'
    exact ⟨toOffer, ts, (hcheck.trans hdeliver).trans (Step.report _ _ _).leads, hleft⟩

theorem run_leads (relay : Relay σ) :
    ∃ toOffer ts, Leads p (batchOf arg).queues expected ⟨relay, (batchAt arg).getD [], []⟩
      ⟨(run p expected arg relay).2, toOffer, ts⟩ := by
  obtain ⟨toOffer, ts, hanswer, hleft⟩ := answer_leads p expected arg relay
  obtain ⟨ts', hdrain, -⟩ := (drain_goes hleft).alone (answer p expected arg relay).2 toOffer
  exact ⟨toOffer, ts', hanswer.trans hdrain⟩

/-- **An invocation takes a course** from the moment at which the request is named and its batch is
to be offered; then the name of the request is taken back. -/
theorem serve_course (context : Context) (relay : Relay σ) :
    ∃ ls m, Course p (batchOf arg).queues expected
        ⟨started context relay, (batchAt arg).getD [], []⟩ ls m ∧
      (serve p expected context arg relay).2 = { m.relay with log := { m.relay.log with
        bound := m.relay.log.bound.unbind [("correlation_id", requestId context)]
          relay.log.bound } } := by
  obtain ⟨toOffer, ts, hrun⟩ := run_leads p expected arg (started context relay)
  obtain ⟨ls, hcourse⟩ : Leads p (batchOf arg).queues expected
      ⟨started context relay, (batchAt arg).getD [], []⟩
      ⟨announced (run p expected arg (started context relay)), toOffer, ts⟩ := by
    rcases hr : run p expected arg (started context relay) with ⟨fault | outcome, relay'⟩
    · rwa [hr] at hrun
    · rw [hr] at hrun
      exact hrun.trans (Step.announce outcome ⟨relay', toOffer, ts⟩).leads
  exact ⟨ls, _, hcourse, serve_relay p expected context arg relay⟩

end Moment

end StreamRelay
