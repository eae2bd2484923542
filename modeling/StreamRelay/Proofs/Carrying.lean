import StreamRelay.Dispatch
import StreamRelay.Proofs.Steady

/-!
# What a computation does to its publisher

`Carries P x Q`: started on a publisher with `P`, the computation `x` ends on one with `Q`, a
property that may depend on what `x` gives. The log counts for nothing here: it may hold anything
and refuse any entry. One rule for each way in which computations are put together; a computation
on the log alone carries any property through (`carries_onLog`).
-/

namespace StreamRelay.Relay

variable {σ α β : Type} {P : σ → Prop}

/-- The computation takes publishers with `P` to publishers with `Q`, whatever the log. -/
def Carries (P : σ → Prop) (x : StateM (Relay σ) α) (Q : α → σ → Prop) : Prop :=
  ∀ r, P r.publisher → Q (x r).1 (x r).2.publisher

theorem Carries.pre {x : StateM (Relay σ) α} {R : σ → Prop} {Q : α → σ → Prop}
    (h : Carries R x Q) (hP : ∀ s, P s → R s) : Carries P x Q := fun r hr => h r (hP _ hr)

theorem Carries.post {x : StateM (Relay σ) α} {Q Q' : α → σ → Prop} (h : Carries P x Q)
    (hQ : ∀ a s, Q a s → Q' a s) : Carries P x Q' := fun r hr => hQ _ _ (h r hr)

theorem carries_pure {Q : α → σ → Prop} (a : α) (h : ∀ s, P s → Q a s) :
    Carries P (pure a : StateM (Relay σ) α) Q := fun _ hr => h _ hr

theorem Carries.bind {x : StateM (Relay σ) α} {f : α → StateM (Relay σ) β} {R : α → σ → Prop}
    {Q : β → σ → Prop} (hx : Carries P x R) (hf : ∀ a, Carries (R a) (f a) Q) :
    Carries P (x >>= f) Q := fun r hr => hf (x r).1 (x r).2 (hx r hr)

/-- What is known of an intermediate result is a hypothesis for the rest. -/
theorem carries_of_and {φ : Prop} {x : StateM (Relay σ) α} {Q : α → σ → Prop}
    (h : φ → Carries P x Q) : Carries (fun s => φ ∧ P s) x Q := fun r hr => h hr.1 r hr.2

theorem carries_onLog (x : StateM Log α) : Carries P (onLog x) fun _ => P := fun _ hr => hr

theorem Carries.under {x : StateM (Relay σ) α} {Q : α → σ → Prop} (h : Carries P x Q)
    (names : Context) : Carries P (Relay.under names x) Q :=
  fun r hr => h { r with log := { r.log with bound := names } } hr

/-! ### Actions -/

/-- What holds when an action has ended: one property if it gave a value, another if it failed. -/
def Ends (R : α → σ → Prop) (E : Fault → σ → Prop) : Except Fault α → σ → Prop
  | .ok a => R a
  | .error fault => E fault

theorem Carries.ends {x : Action σ α} {Q : σ → Prop} (h : Carries P x fun _ => Q) :
    Carries P x (Ends (fun _ => Q) fun _ => Q) :=
  h.post fun result s hs => by cases result <;> exact hs

theorem Carries.ends_imp {x : Action σ α} {R R' : α → σ → Prop} {E E' : Fault → σ → Prop}
    (h : Carries P x (Ends R E)) (hR : ∀ a s, R a s → R' a s) (hE : ∀ fault s, E fault s → E' fault s) :
    Carries P x (Ends R' E') :=
  h.post fun result s hs => by
    cases result with
    | ok a => exact hR a s hs
    | error fault => exact hE fault s hs

theorem Carries.bind_action {x : Action σ α} {f : α → Action σ β} {R : α → σ → Prop}
    {Q : Except Fault β → σ → Prop} (hx : Carries P x (Ends R fun fault => Q (.error fault)))
    (hf : ∀ a, Carries (R a) (f a) Q) : Carries P (x >>= f : Action σ β) Q := by
  intro r hr
  have h := hx r hr
  rw [except_bind_at]
  rcases hxr : x r with ⟨_ | a, r'⟩
  · rw [hxr] at h; exact h
  · rw [hxr] at h; exact hf a r' h

theorem carries_ofLogged (x : Logged α) : Carries P (Action.ofLogged x) fun _ => P :=
  fun _ hr => hr

theorem Carries.andFinally {x : Action σ α} {y : Action σ Unit} {R Q : σ → Prop}
    (hx : Carries P x fun _ => R) (hy : Carries R y fun _ => Q) :
    Carries P (x.andFinally y) fun _ => Q := by
  intro r hr
  have h := hy (x r).2 (hx r hr)
  unfold Action.andFinally
  rcases hxr : x r with ⟨result, r'⟩
  rw [hxr] at h
  rcases hyr : y r' with ⟨_ | _, r''⟩
  · rw [hyr] at h; simpa only [hyr] using h
  · rw [hyr] at h; simpa only [hyr] using h

theorem Carries.onFault {x : Action σ α} {y : Action σ Unit} {Q : Except Fault α → σ → Prop}
    {R : σ → Prop} (hx : Carries P x (Ends (fun a => Q (.ok a)) fun _ => R))
    (hy : Carries R y fun _ s => ∀ fault, Q (.error fault) s) : Carries P (x.onFault y) Q := by
  intro r hr
  have h := hx r hr
  unfold Action.onFault
  rcases hxr : x r with ⟨fault | a, r'⟩
  · rw [hxr] at h
    have h' := hy r' h
    simp only [Action.andFinally, show (throw fault : Action σ α) r' = (.error fault, r') from rfl]
    rcases hyr : y r' with ⟨_ | _, r''⟩
    · rw [hyr] at h'; exact h' _
    · rw [hyr] at h'; exact h' _
  · rw [hxr] at h; exact h

theorem Carries.binding {x : Action σ α} {Q : Except Fault α → σ → Prop} (h : Carries P x Q)
    (names : Context) : Carries P (x.binding names) Q :=
  fun r hr => h { r with log := { r.log with bound := r.log.bound.bind names } } hr

end StreamRelay.Relay
