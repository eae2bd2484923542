import Mathlib.Data.List.Forall2
import StreamRelay.Proofs.Offering
import StreamRelay.Proofs.Writers

/-!
# Publishers that mirror each other

Two relays are alike when their publishers are in a given relation and their logs, which keep all
that is written, grew by the same lines once those that are not shown are left out of the first
(`Relay.Alike`). A publisher mirrors another when beginning and finishing a send on both, from alike
relays, leads to alike relays with the same answer (`Publisher.Mirrors`). Then a turn, a round and
all rounds of the same new tasks on both lead to alike relays and to tasks that stand alike
(`turn_alike`, `round_alike`, `settle_alike`), and a batch in which no record aborts comes to one
tally on both (`deliver_alike`).
-/

namespace StreamRelay

variable {σ τ π ρ α β γ δ : Type}

/-- Two logs that keep their entries, under the same bound names: after the entries in `base`, the
second has those of the first that are shown. -/
structure Log.Alike (shown : Log.Entry → Bool) (base : List Log.Entry) (l m : Log) : Prop where
  keeps : l.Keeps
  keeps' : m.Keeps
  bound : l.bound = m.bound
  entries : ∃ es, l.entries = base ++ es ∧ m.entries = base ++ es.filter shown

namespace Relay

/-- Two relays with alike logs and publishers in a relation. -/
structure Alike (shown : Log.Entry → Bool) (base : List Log.Entry) (M : σ → τ → Prop)
    (r : Relay σ) (s : Relay τ) : Prop where
  log : r.log.Alike shown base s.log
  publisher : M r.publisher s.publisher

/-- From relays in a relation, two computations give results in a relation and leave relays in a
relation. -/
def Tracks (R : Relay σ → Relay τ → Prop) (x : StateM (Relay σ) α) (y : StateM (Relay τ) β)
    (Q : α → β → Prop) (S : Relay σ → Relay τ → Prop) : Prop :=
  ∀ r s, R r s → Q (x r).1 (y s).1 ∧ S (x r).2 (y s).2

variable {R S T : Relay σ → Relay τ → Prop} {Q : α → β → Prop}

theorem tracks_pure {a : α} {b : β} (h : Q a b) :
    Tracks R (pure a : StateM (Relay σ) α) (pure b : StateM (Relay τ) β) Q R :=
  fun _ _ hr => ⟨h, hr⟩

theorem Tracks.bind {x : StateM (Relay σ) α} {y : StateM (Relay τ) β}
    {f : α → StateM (Relay σ) γ} {g : β → StateM (Relay τ) δ} {U : γ → δ → Prop}
    (hx : Tracks R x y Q S) (hf : ∀ a b, Q a b → Tracks S (f a) (g b) U T) :
    Tracks R (x >>= f) (y >>= g) U T := by
  intro r s hr
  obtain ⟨hq, hs⟩ := hx r s hr
  exact hf _ _ hq _ _ hs

variable {shown : Log.Entry → Bool} {base : List Log.Entry} {M M' : σ → τ → Prop}

theorem Alike.eq_keeping {r : Relay σ} {s : Relay τ} (h : Alike shown base M r s) :
    ∃ b es a m, r = keeping b (base ++ es) a ∧ s = keeping b (base ++ es.filter shown) m ∧
      M a m := by
  obtain ⟨es, hes, hfs⟩ := h.log.entries
  refine ⟨r.log.bound, es, r.publisher, s.publisher, ?_, ?_, h.publisher⟩
  · rw [← hes]
    exact Relay.eq_keeping h.log.keeps
  · rw [← hfs, h.log.bound]
    exact Relay.eq_keeping h.log.keeps'

theorem alike_keeping (b : Context) (es : List Log.Entry) {a : σ} {m : τ} (hm : M a m) :
    Alike shown base M (keeping b (base ++ es) a) (keeping b (base ++ es.filter shown) m) :=
  ⟨⟨fun _ => rfl, fun _ => rfl, rfl, es, rfl, rfl⟩, hm⟩

/-- Lines that are shown, at the end of both logs. -/
theorem alike_append_shown {b : Context} {es : List Log.Entry} {a : σ} {m : τ} (hm : M a m)
    {fs : List Log.Entry} (h : ∀ e ∈ fs, shown e = true) :
    Alike shown base M (keeping b (base ++ es ++ fs) a)
      (keeping b (base ++ es.filter shown ++ fs) m) := by
  have hall : Alike shown base M (keeping b (base ++ (es ++ fs)) a)
      (keeping b (base ++ (es ++ fs).filter shown) m) := alike_keeping b (es ++ fs) hm
  have hfs : fs.filter shown = fs := List.filter_eq_self.mpr h
  rwa [List.filter_append, hfs, ← List.append_assoc, ← List.append_assoc] at hall

/-- Lines that are not shown, at the end of the first log. -/
theorem alike_append_hidden {b : Context} {es : List Log.Entry} {a : σ} {m : τ} (hm : M a m)
    {fs : List Log.Entry} (h : ∀ e ∈ fs, shown e = false) :
    Alike shown base M (keeping b (base ++ es ++ fs) a)
      (keeping b (base ++ es.filter shown) m) := by
  have hall : Alike shown base M (keeping b (base ++ (es ++ fs)) a)
      (keeping b (base ++ (es ++ fs).filter shown) m) := alike_keeping b (es ++ fs) hm
  have hfs : fs.filter shown = [] := List.filter_eq_nil_iff.mpr fun e he => by simp [h e he]
  rwa [List.filter_append, hfs, List.append_nil, ← List.append_assoc] at hall

/-- The same steady computation on both logs, if its lines are shown. -/
theorem tracks_onLog {x : Logged α} (hx : x.Steady) (h : ∀ b, ∀ e ∈ x.lines b, shown e = true) :
    Tracks (Alike shown base M) (onLog x.run) (onLog x.run)
      (fun a b => a = x.result ∧ b = x.result) (Alike shown base M) := by
  intro r s hr
  obtain ⟨b, es, a, m, rfl, rfl, hm⟩ := hr.eq_keeping
  rw [onLog_run hx, onLog_run hx]
  exact ⟨⟨rfl, rfl⟩, alike_append_shown hm (h b)⟩

theorem Tracks.under {x : StateM (Relay σ) α} {y : StateM (Relay τ) β}
    (h : Tracks (Alike shown base M) x y Q (Alike shown base M')) (names : Context) :
    Tracks (Alike shown base M) (Relay.under names x) (Relay.under names y) Q
      (Alike shown base M') := by
  intro r s hr
  have hunder : Alike shown base M { r with log := { r.log with bound := names } }
      { s with log := { s.log with bound := names } } :=
    ⟨⟨hr.log.keeps, hr.log.keeps', rfl, hr.log.entries⟩, hr.publisher⟩
  obtain ⟨hq, hlog, hm⟩ := h _ _ hunder
  exact ⟨hq, ⟨hlog.keeps, hlog.keeps', hr.log.bound, hlog.entries⟩, hm⟩

end Relay

open Relay

/-- Two answers to the beginning of a send: the same number of turns, and pending sends in a
relation. -/
def Publisher.Begun (P : π → ρ → Prop) : Except Fault (Nat × π) → Except Fault (Nat × ρ) → Prop
  | .ok a, .ok b => a.1 = b.1 ∧ P a.2 b.2
  | _, _ => False

/-- One publisher mirrors another in the sends of some messages: `M k` relates their states when
there are `k` more sends to begin, and `P` their pending sends. Lines of core parts are shown. -/
structure Publisher.Mirrors (p : Publisher σ π) (q : Publisher τ ρ) (shown : Log.Entry → Bool)
    (M : Nat → σ → τ → Prop) (P : π → ρ → Prop) (Sendable : Message → Prop) : Prop where
  core (e : Log.Entry) : e.logger ∈ Log.core → shown e = true
  begin (base : List Log.Entry) (k : Nat) (m : Message) : Sendable m →
    Tracks (Alike shown base (M (k + 1))) (p.begin m) (q.begin m) (Begun P) (Alike shown base (M k))
  finish (base : List Log.Entry) (k : Nat) (x : π) (y : ρ) : P x y →
    Tracks (Alike shown base (M k)) (p.finish x) (q.finish y) Eq (Alike shown base (M k))

/-- Two sends that have begun and stand alike. -/
inductive Send.Alike (P : π → ρ → Prop) : Send π → Send ρ → Prop
  | waiting (left : Nat) {x : π} {y : ρ} (h : P x y) : Alike P (.waiting left x) (.waiting left y)
  | ended (result : Except Fault Receipt) : Alike P (.ended result) (.ended result)

/-- Two tasks of the same destination and names that have begun and stand alike. -/
inductive Task.Alike (P : π → ρ → Prop) : Task π → Task ρ → Prop
  | waiting (destination : Value) (bound : Context) (left : Nat) {x : π} {y : ρ} (h : P x y) :
    Alike P ⟨destination, bound, .sending (.waiting left x)⟩
      ⟨destination, bound, .sending (.waiting left y)⟩
  | counted (destination : Value) (bound : Context) (success : Bool) :
    Alike P ⟨destination, bound, .counted success⟩ ⟨destination, bound, .counted success⟩

namespace Task

variable {P : π → ρ → Prop}

/-! ### Tasks that stand alike -/

theorem fault?_of_alike {ts : List (Task π)} {us : List (Task ρ)}
    (h : List.Forall₂ (Task.Alike P) ts us) :
    (∀ t ∈ ts, t.fault? = none) ∧ ∀ u ∈ us, u.fault? = none := by
  induction h with
  | nil => exact ⟨by simp, by simp⟩
  | cons h _ ih =>
    rw [List.forall_mem_cons, List.forall_mem_cons]
    cases h with
    | waiting => exact ⟨⟨rfl, ih.1⟩, rfl, ih.2⟩
    | counted => exact ⟨⟨rfl, ih.1⟩, rfl, ih.2⟩

theorem verdicts_of_alike {ts : List (Task π)} {us : List (Task ρ)}
    (h : List.Forall₂ (Task.Alike P) ts us) : ts.filterMap verdict? = us.filterMap verdict? := by
  induction h with
  | nil => rfl
  | cons h _ ih =>
    cases h with
    | waiting => exact ih
    | counted destination bound success => exact congrArg (success :: ·) ih

theorem longest_of_alike {ts : List (Task π)} {us : List (Task ρ)}
    (h : List.Forall₂ (Task.Alike P) ts us) : longest ts = longest us := by
  induction h with
  | nil => rfl
  | cons h _ ih =>
    rw [longest, longest, ih]
    cases h with
    | waiting => rfl
    | counted => rfl

theorem any_of_no_fault {ts : List (Task π)} (h : ∀ t ∈ ts, t.fault? = none) :
    (ts.any fun t => t.fault?.isSome) = false := by
  rw [List.any_eq_false]
  intro t ht
  rw [h t ht]
  simp

end Task

namespace Publisher.Mirrors

variable {p : Publisher σ π} {q : Publisher τ ρ} {shown : Log.Entry → Bool}
  {M : Nat → σ → τ → Prop} {P : π → ρ → Prop} {Sendable : Message → Prop}
  (h : p.Mirrors q shown M P Sendable) {base : List Log.Entry}

include h

/-! ### Turns -/

theorem conclude_alike (k : Nat) (destination : Value) (bound : Context) (stage : Task.Stage π)
    (stage' : Task.Stage ρ) {s : Send π} {s' : Send ρ} (hs : s.Alike P s') :
    Tracks (Alike shown base (M k)) (Task.conclude ⟨destination, bound, stage⟩ s)
      (Task.conclude ⟨destination, bound, stage'⟩ s') (Task.Alike P) (Alike shown base (M k)) := by
  cases hs with
  | waiting left hp => exact tracks_pure (.waiting destination bound left hp)
  | ended result =>
    obtain ⟨hsteady, hresult⟩ := Task.report_run destination result
    have hshown (b : Context) : ∀ e ∈ (Task.report destination result).lines b, shown e = true :=
      fun e he => h.core e ((Task.report_core destination result).logger_mem b e he)
    refine (tracks_onLog hsteady hshown).bind fun a b hab => ?_
    rw [hab.1, hab.2, hresult]
    exact tracks_pure (.counted destination bound _)

theorem finish_alike (k : Nat) {x : π} {y : ρ} (hxy : P x y) :
    Tracks (Alike shown base (M k)) (Send.finish p x) (Send.finish q y) (Send.Alike P)
      (Alike shown base (M k)) := by
  refine (h.finish base k x y hxy).bind fun a b hab => ?_
  rw [show a = b from hab]
  exact tracks_pure (.ended b)

/-- The first turn of a task takes one of the sends that are to begin. -/
theorem turn_new (k : Nat) (c : Context) {m : Message} (hm : Sendable m) :
    Tracks (Alike shown base (M (k + 1))) ((Task.create c m).turn p) ((Task.create c m).turn q)
      (Task.Alike P) (Alike shown base (M k)) := by
  have hsend : Tracks (Alike shown base (M (k + 1))) ((Send.fresh m).turn p) ((Send.fresh m).turn q)
      (Send.Alike P) (Alike shown base (M k)) := by
    refine (h.begin base k m hm).bind fun a b hab => ?_
    rcases a with fault | ⟨left, x⟩
    · exact hab.elim
    · rcases b with fault | ⟨left', y⟩
      · exact hab.elim
      · obtain ⟨rfl, hxy⟩ : left = left' ∧ P x y := hab
        cases left with
        | zero => exact h.finish_alike k hxy
        | succ left => exact tracks_pure (.waiting left hxy)
  have hturn : Tracks (Alike shown base (M (k + 1)))
      ((Send.fresh m).turn p >>= fun s => (Task.create c m).conclude s)
      ((Send.fresh m).turn q >>= fun s => (Task.create c m).conclude s)
      (Task.Alike P) (Alike shown base (M k)) :=
    hsend.bind fun _ _ hs => h.conclude_alike k m.destination c _ _ hs
  exact hturn.under c

theorem turn_alike (k : Nat) {t : Task π} {u : Task ρ} (htu : t.Alike P u) :
    Tracks (Alike shown base (M k)) (t.turn p) (u.turn q) (Task.Alike P)
      (Alike shown base (M k)) := by
  cases htu with
  | counted destination bound success => exact tracks_pure (.counted destination bound success)
  | @waiting destination bound left x y hxy =>
    have hsend : Tracks (Alike shown base (M k)) ((Send.waiting left x).turn p)
        ((Send.waiting left y).turn q) (Send.Alike P) (Alike shown base (M k)) := by
      cases left with
      | zero => exact h.finish_alike k hxy
      | succ left => exact tracks_pure (.waiting left hxy)
    have hturn : Tracks (Alike shown base (M k))
        ((Send.waiting left x).turn p >>= fun s =>
          Task.conclude ⟨destination, bound, .sending (.waiting left x)⟩ s)
        ((Send.waiting left y).turn q >>= fun s =>
          Task.conclude ⟨destination, bound, .sending (.waiting left y)⟩ s)
        (Task.Alike P) (Alike shown base (M k)) :=
      hsend.bind fun _ _ hs => h.conclude_alike k destination bound _ _ hs
    exact hturn.under bound

/-! ### Rounds -/

theorem round_new : ∀ (ms : List (Context × Message)) (k : Nat), (∀ cm ∈ ms, Sendable cm.2) →
    Tracks (Alike shown base (M (k + ms.length)))
      (Task.round p (ms.map fun cm => Task.create cm.1 cm.2))
      (Task.round q (ms.map fun cm => Task.create cm.1 cm.2))
      (List.Forall₂ (Task.Alike P)) (Alike shown base (M k))
  | [], k, _ => tracks_pure .nil
  | (c, m) :: ms, k, hms => by
    rw [List.forall_mem_cons] at hms
    rw [List.length_cons, ← Nat.add_assoc]
    refine (h.turn_new (k + ms.length) c hms.1).bind fun t u htu => ?_
    exact (round_new ms k hms.2).bind fun ts us htus => tracks_pure (.cons htu htus)

theorem round_alike (k : Nat) {ts : List (Task π)} {us : List (Task ρ)}
    (htus : List.Forall₂ (Task.Alike P) ts us) :
    Tracks (Alike shown base (M k)) (Task.round p ts) (Task.round q us)
      (List.Forall₂ (Task.Alike P)) (Alike shown base (M k)) := by
  induction htus with
  | nil => exact tracks_pure .nil
  | cons htu _ ih =>
    refine (h.turn_alike k htu).bind fun t u htu => ?_
    exact ih.bind fun ts us htus => tracks_pure (.cons htu htus)

theorem rounds_alike (k : Nat) : ∀ (n : Nat) {ts : List (Task π)} {us : List (Task ρ)},
    List.Forall₂ (Task.Alike P) ts us →
    Tracks (Alike shown base (M k)) (Task.rounds p n ts) (Task.rounds q n us)
      (List.Forall₂ (Task.Alike P)) (Alike shown base (M k))
  | 0, _, _, htus => tracks_pure htus
  | n + 1, ts, us, htus => by
    obtain ⟨hts, hus⟩ := Task.fault?_of_alike htus
    rw [Task.rounds, Task.rounds, Task.any_of_no_fault hts, Task.any_of_no_fault hus]
    exact (h.round_alike k htus).bind fun _ _ => rounds_alike k n

theorem settle_alike (k : Nat) {ms : List (Context × Message)} (hms : ∀ cm ∈ ms, Sendable cm.2) :
    Tracks (Alike shown base (M (k + ms.length)))
      (Task.settle p (ms.map fun cm => Task.create cm.1 cm.2))
      (Task.settle q (ms.map fun cm => Task.create cm.1 cm.2))
      (List.Forall₂ (Task.Alike P)) (Alike shown base (M k)) := by
  refine (h.round_new ms k hms).bind fun ts us htus => ?_
  rw [Task.longest_of_alike htus]
  exact h.rounds_alike k _ htus

/-! ### Batches -/

theorem await_alike (k : Nat) {ms : List (Context × Message)} (hms : ∀ cm ∈ ms, Sendable cm.2)
    {r : Relay σ} {s : Relay τ} (hrs : Alike shown base (M (k + ms.length)) r s) :
    ∃ tally r' s', Alike shown base (M k) r' s' ∧
      FanOut.await p (ms.map fun cm => Task.create cm.1 cm.2) r =
        (let (result, r'') := FanOut.leave p (.ok tally) r'; (.clear result, r'')) ∧
      FanOut.await q (ms.map fun cm => Task.create cm.1 cm.2) s =
        (let (result, s'') := FanOut.leave q (.ok tally) s'; (.clear result, s'')) := by
  obtain ⟨htus, hleft⟩ := h.settle_alike k hms r s hrs
  rcases hx : Task.settle p (ms.map fun cm => Task.create cm.1 cm.2) r with ⟨ts, r'⟩
  rcases hy : Task.settle q (ms.map fun cm => Task.create cm.1 cm.2) s with ⟨us, s'⟩
  rw [hx, hy] at htus hleft
  obtain ⟨hts, hus⟩ := Task.fault?_of_alike htus
  have htally : Task.tally ts = Task.tally us := by
    rw [Task.tally, Task.verdicts_of_alike htus]; rfl
  refine ⟨Task.tally us, r', s', hleft, ?_, ?_⟩
  · rw [FanOut.await, bind_at, hx]
    simp only [List.findSome?_eq_none_iff.mpr hts, htally]
    rfl
  · rw [FanOut.await, bind_at, hy]
    simp only [List.findSome?_eq_none_iff.mpr hus]
    rfl

open StreamRecord FanOut in
/-- **A batch on publishers that mirror each other.** If both can be entered and no record aborts,
both are left with the same tally once all sends have settled, and their relays are alike then. -/
theorem deliver_alike {queues records expected : Value} {qs raws : List Value}
    (hqs : queues.members? = some qs) (hraws : records.members? = some raws)
    (hab : ∀ raw ∈ raws, aborts raw expected = false)
    (hsend : ∀ m ∈ raws.flatMap (due qs expected), Sendable m) {b : Context}
    {es : List Log.Entry} {s s' : σ} {t t' : τ}
    (hp : p.enter.run (Relay.keeping b es s) = (.ok (), Relay.keeping b es s'))
    (hq : q.enter.run (Relay.keeping b es t) = (.ok (), Relay.keeping b es t')) (k : Nat)
    (hM : M (k + (raws.flatMap (due qs expected)).length) s' t') :
    ∃ tally r r', Alike shown es (M k) r r' ∧
      deliver p expected queues records (Relay.keeping b es s) =
        (let (result, r'') := FanOut.leave p (.ok tally) r; (.clear result, r'')) ∧
      deliver q expected queues records (Relay.keeping b es t) =
        (let (result, r'') := FanOut.leave q (.ok tally) r'; (.clear result, r'')) := by
  obtain ⟨hnone, hmessages⟩ := offering_of_no_abort hqs expected hab b
  rw [deliver_of_enter expected hraws hp, deliver_of_enter expected hraws hq]
  simp only [hnone, close]
  refine h.await_alike k (fun cm hcm => hsend _ ?_) ?_
  · rw [← hmessages]
    exact List.mem_map_of_mem hcm
  · obtain ⟨o, ho⟩ : ∃ o, o = offering queues expected b raws := ⟨_, rfl⟩
    have hlines : ∀ e ∈ o.lines, shown e = true := by
      rw [ho]
      exact fun e he => h.core e (logger_mem_offering queues expected raws b e he)
    have halike : Alike shown es (M (k + (raws.flatMap (due qs expected)).length))
        (keeping o.bound (es ++ [] ++ o.lines) s')
        (keeping o.bound (es ++ [].filter shown ++ o.lines) t') := alike_append_shown hM hlines
    rw [← ho]
    rw [← hmessages, List.length_map, ← ho] at halike
    simpa using halike

end Publisher.Mirrors

end StreamRelay
