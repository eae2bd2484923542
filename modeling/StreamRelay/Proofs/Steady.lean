import StreamRelay.Relay

/-!
# Steady computations

A computation on the log is steady when all it does to a log that keeps its entries is to add lines
at the end: what it gives depends on nothing, and what it adds on the bound names only. `result` and
`lines` read the two off a run on an empty log; a sequence of steady computations is steady, and
gives and adds what its parts do (`Steady.bind`, `result_bind`, `lines_bind`).
-/

namespace StreamRelay

/-! ### Logs that keep their entries -/

/-- A log with the given bound names and entries that keeps all that is written. -/
def Log.keeping (b : Context) (es : List Log.Entry) : Log := ⟨fun _ => none, b, es⟩

theorem Log.Keeps.eq_keeping {log : Log} (h : log.Keeps) :
    log = Log.keeping log.bound log.entries := by
  obtain ⟨refuse, b, es⟩ := log
  have hr : refuse = fun _ => none := funext h
  rw [hr]; rfl

theorem Log.Keeps.exists_keeping {log : Log} (h : log.Keeps) :
    ∃ b es, log = Log.keeping b es := ⟨_, _, h.eq_keeping⟩

/-- The relay of a publisher and a log that keeps its entries. -/
def Relay.keeping {σ : Type} (b : Context) (es : List Log.Entry) (s : σ) : Relay σ :=
  ⟨Log.keeping b es, s⟩

theorem Relay.eq_keeping {σ : Type} {r : Relay σ} (h : r.log.Keeps) :
    r = Relay.keeping r.log.bound r.log.entries r.publisher := by
  unfold Relay.keeping
  rw [← h.eq_keeping]

theorem Relay.exists_keeping {σ : Type} {r : Relay σ} (h : r.log.Keeps) :
    ∃ b es s, r = Relay.keeping b es s := ⟨_, _, _, Relay.eq_keeping h⟩

theorem bind_at {ρ α β : Type} (x : StateM ρ α) (f : α → StateM ρ β) (r : ρ) :
    (x >>= f) r = f (x r).1 (x r).2 := rfl

theorem except_bind_at {ρ α β : Type} (x : ExceptT Fault (StateM ρ) α)
    (f : α → ExceptT Fault (StateM ρ) β) (r : ρ) :
    (x >>= f) r = match x r with
      | (.ok a, r') => f a r'
      | (.error fault, r') => (.error fault, r') := by
  simp only [bind, ExceptT.bind, ExceptT.mk, StateT.bind]
  rcases x r with ⟨_ | a, r'⟩ <;> rfl

namespace Logged

variable {α β : Type}

/-- What a computation gives. -/
def result (x : Logged α) : Except Fault α := (x (Log.keeping [] [])).1

/-- What a computation writes under the given names. -/
def lines (x : Logged α) (b : Context) : List Log.Entry := (x (Log.keeping b [])).2.entries

/-- All that a computation does to a log is to add lines. -/
def Steady (x : Logged α) : Prop :=
  ∀ b es, x (Log.keeping b es) = (x.result, Log.keeping b (es ++ x.lines b))

/-- A computation with the same result on all logs, to which it adds the same lines. -/
theorem steady_of_run {x : Logged α} {r : Except Fault α} {f : Context → List Log.Entry}
    (h : ∀ b es, x (Log.keeping b es) = (r, Log.keeping b (es ++ f b))) :
    x.Steady ∧ x.result = r ∧ x.lines = f := by
  have hr : x.result = r := by unfold result; rw [h]
  have hl : x.lines = f := by
    funext b
    unfold lines; rw [h]; rfl
  refine ⟨fun b es => ?_, hr, hl⟩
  rw [hr, hl]; exact h b es

/-- A steady computation gives its result on every log that keeps its entries. -/
theorem Steady.fst_eq {x : Logged α} (hx : x.Steady) {log : Log} (h : log.Keeps) :
    (x log).1 = x.result := by
  rw [h.eq_keeping, hx]

theorem binding_run {x : Logged α} {names b c : Context} {es es' : List Log.Entry}
    {r : Except Fault α} (h : x (Log.keeping (b.bind names) es) = (r, Log.keeping c es')) :
    x.binding names (Log.keeping b es) = (r, Log.keeping (c.unbind names b) es') := by
  unfold binding
  rw [show ({ Log.keeping b es with bound := (Log.keeping b es).bound.bind names } : Log) =
    Log.keeping (b.bind names) es from rfl, h]
  rfl

/-! ### Single steps -/

theorem pure_run (a : α) :
    (pure a : Logged α).Steady ∧ (pure a : Logged α).result = .ok a ∧
      (pure a : Logged α).lines = fun _ => [] :=
  steady_of_run fun b es => by rw [List.append_nil]; rfl

theorem throw_run (fault : Fault) :
    (throw fault : Logged α).Steady ∧ (throw fault : Logged α).result = .error fault ∧
      (throw fault : Logged α).lines = fun _ => [] :=
  steady_of_run fun b es => by rw [List.append_nil]; rfl

theorem write_run (logger : String) (level : Log.Level) (event : String) (fields : Context) :
    (Log.write logger level event fields).Steady ∧
      (Log.write logger level event fields).result = .ok () ∧
      (Log.write logger level event fields).lines = fun b => [⟨level, logger, event, fields, b⟩] :=
  steady_of_run fun _ _ => rfl

theorem steady_pure (a : α) : (pure a : Logged α).Steady := (pure_run a).1

theorem steady_throw (fault : Fault) : (throw fault : Logged α).Steady := (throw_run fault).1

theorem steady_write (logger : String) (level : Log.Level) (event : String) (fields : Context) :
    (Log.write logger level event fields).Steady := (write_run logger level event fields).1

@[simp] theorem result_pure (a : α) : (pure a : Logged α).result = .ok a := rfl

@[simp] theorem result_write (logger : String) (level : Log.Level) (event : String)
    (fields : Context) : (Log.write logger level event fields).result = .ok () := rfl

/-! ### Sequences -/

/-- What the rest of a computation writes after a result. -/
def linesAfter (f : α → Logged β) (b : Context) : Except Fault α → List Log.Entry
  | .ok a => (f a).lines b
  | .error _ => []

theorem bind_run {x : Logged α} {f : α → Logged β} (hx : x.Steady) (hf : ∀ a, (f a).Steady) :
    (x >>= f).Steady ∧ (x >>= f).result = (x.result.bind fun a => (f a).result) ∧
      (x >>= f).lines = fun b => x.lines b ++ linesAfter f b x.result := by
  refine steady_of_run fun b es => ?_
  rw [except_bind_at, hx b es]
  cases h : x.result with
  | error fault => simp [linesAfter, Except.bind]
  | ok a => simp [linesAfter, Except.bind, hf a b, List.append_assoc]

theorem Steady.bind {x : Logged α} {f : α → Logged β} (hx : x.Steady) (hf : ∀ a, (f a).Steady) :
    (x >>= f).Steady := (bind_run hx hf).1

theorem result_bind {x : Logged α} {f : α → Logged β} (hx : x.Steady) (hf : ∀ a, (f a).Steady) :
    (x >>= f).result = x.result.bind fun a => (f a).result := (bind_run hx hf).2.1

theorem lines_bind {x : Logged α} {f : α → Logged β} (hx : x.Steady) (hf : ∀ a, (f a).Steady)
    (b : Context) : (x >>= f).lines b = x.lines b ++ linesAfter f b x.result :=
  congrFun (bind_run hx hf).2.2 b

end Logged

end StreamRelay
