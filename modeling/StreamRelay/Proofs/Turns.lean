import StreamRelay.Dispatch
import StreamRelay.Proofs.Steady

/-!
# Turns of a task

What one turn does to a relay whose log keeps its entries. A send that has ended is counted as its
result asks for and adds the lines of its report under the names of the task (`conclude_ended`), and
a task that was counted stays as it is.
-/

namespace StreamRelay

variable {σ π α β : Type}

/-! ### Computations on a relay -/

theorem Relay.onLog_run {x : Logged α} (hx : x.Steady) (b : Context) (es : List Log.Entry)
    (s : σ) : Relay.onLog x.run (Relay.keeping b es s) =
      (x.result, Relay.keeping b (es ++ x.lines b) s) := by
  show ((x (Log.keeping b es)).1, (⟨(x (Log.keeping b es)).2, s⟩ : Relay σ)) = _
  rw [hx b es]; rfl

theorem Relay.under_run {x : StateM (Relay σ) α} {names b c : Context} {es es' : List Log.Entry}
    {s s' : σ} {a : α}
    (h : x (Relay.keeping names es s) = (a, Relay.keeping c es' s')) :
    Relay.under names x (Relay.keeping b es s) = (a, Relay.keeping b es' s') := by
  show ((x (Relay.keeping names es s)).1,
    (⟨{ (x (Relay.keeping names es s)).2.log with bound := b },
      (x (Relay.keeping names es s)).2.publisher⟩ : Relay σ)) = _
  rw [h]; rfl

theorem Tally.foldl_count : ∀ (vs : List Bool) (t : Tally),
    vs.foldl Tally.count t = ⟨t.successes + vs.countP id, t.failures + vs.countP (!·)⟩
  | [], t => by simp
  | v :: vs, t => by
    rw [List.foldl_cons, foldl_count vs]
    cases v <;> simp [count, Int.add_comm, Int.add_left_comm]

namespace Task

/-! ### Reports -/

def succeeded : Except Fault Receipt → Bool
  | .ok receipt => receipt.success.isTruthy
  | .error _ => false

theorem report_run (queue : Value) (result : Except Fault Receipt) :
    (report queue result).Steady ∧ (report queue result).result = .ok (succeeded result) := by
  have hw (level : Log.Level) (event : String) (fields : Context) (v : Bool) :
      (Log.write logger level event fields >>= fun _ => pure v).Steady ∧
        (Log.write logger level event fields >>= fun _ => pure v).result = .ok v :=
    ⟨(Logged.steady_write _ _ _ _).bind fun _ => Logged.steady_pure _, rfl⟩
  cases result with
  | error fault => exact hw _ _ _ false
  | ok receipt =>
    simp only [report, succeeded]
    cases receipt.success.isTruthy with
    | true => exact hw _ _ _ true
    | false => exact hw _ _ _ false

/-- What a task writes when its send ends. -/
def reportLines (t : Task π) (result : Except Fault Receipt) : List Log.Entry :=
  (report t.destination result).lines t.bound

/-! ### Turns -/

theorem conclude_ended (t : Task π) (result : Except Fault Receipt) (es : List Log.Entry) (s : σ) :
    t.conclude (.ended result) (Relay.keeping t.bound es s) =
      ({ t with stage := .counted (succeeded result) },
        Relay.keeping t.bound (es ++ t.reportLines result) s) := by
  obtain ⟨hs, hr⟩ := report_run t.destination result
  simp only [conclude]
  rw [bind_at, Relay.onLog_run hs, hr]
  rfl

theorem conclude_waiting (t : Task π) (left : Nat) (pending : π) (r : Relay σ) :
    t.conclude (.waiting left pending) r =
      ({ t with stage := .sending (.waiting left pending) }, r) := rfl

theorem turn_sending {t : Task π} {send : Send π} (h : t.stage = .sending send)
    (p : Publisher σ π) :
    t.turn p = Relay.under t.bound (send.turn p >>= fun send' => t.conclude send') := by
  unfold turn
  rw [h]

theorem turn_counted {t : Task π} {v : Bool} (h : t.stage = .counted v) (p : Publisher σ π)
    (r : Relay σ) : t.turn p r = (t, r) := by
  unfold turn
  rw [h]; rfl

end Task

end StreamRelay
