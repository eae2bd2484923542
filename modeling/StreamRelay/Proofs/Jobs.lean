import StreamRelay.Publisher.Memory
import StreamRelay.Proofs.Turns

/-!
# The jobs of a batch

A job is a send of a batch on the memory publisher, with the number and the step that it gets there.
After `n` rounds past the first, a job whose step yields at most `n` times has been counted, and any
other waits (`Job.after`); a round so ends the jobs of one number of yields, in order
(`round_fresh`, `round_after`), and all rounds together end the jobs in the order of the schedule
(`settle_jobs`).
-/

namespace StreamRelay.Memory

/-- A send of a batch: the message with the names bound for it, its number and its step. -/
structure Job where
  bound : Context
  message : Message
  index : Nat
  step : Step

/-- The jobs of messages with the names bound for them, numbered from `n` on. -/
def jobsFrom (script : Script) : Nat → List (Context × Message) → List Job
  | _, [] => []
  | n, (c, m) :: ms => ⟨c, m, n, script.step m.destination n⟩ :: jobsFrom script (n + 1) ms

namespace Job

def pending (j : Job) : Pending := ⟨j.index, j.message.destination, j.step⟩

def succeeds (j : Job) : Bool := Task.succeeded j.pending.answer

/-- The task of a job at a stage. -/
def task (j : Job) (stage : Task.Stage Pending) : Task Pending :=
  ⟨j.message.destination, j.bound, stage⟩

def fresh (j : Job) : Task Pending := j.task (.sending (.fresh j.message))

/-- The task of a job after its first turn and `n` more. -/
def after (n : Nat) (j : Job) : Task Pending :=
  j.task (if j.step.yields ≤ n then .counted j.succeeds
    else .sending (.waiting (j.step.yields - n - 1) j.pending))

/-- What the task of a job writes when its send ends. -/
def lines (j : Job) : List Log.Entry := j.fresh.reportLines j.pending.answer

/-- The jobs that end `n` turns after their first. -/
def endingAt (js : List Job) (n : Nat) : List Job := js.filter (·.step.yields = n)

/-- The jobs that end in the `m` rounds after the one that ends those of `n` turns. -/
def endings (js : List Job) (n m : Nat) : List Job :=
  (List.range m).flatMap fun k => endingAt js (n + 1 + k)

/-- The greatest number of turns after its first that a job takes. -/
def longest : List Job → Nat
  | [] => 0
  | j :: js => max j.step.yields (longest js)

/-- The jobs in the order in which they settle: by their yields, then in order. -/
def schedule (js : List Job) : List Job := (List.range (longest js + 1)).flatMap (endingAt js)

end Job

/-- The publisher after the first turn of a job. -/
def Store.launch (s : Store) (j : Job) : Store :=
  if j.step.yields = 0 then (s.push j.message).settle j.index else s.push j.message

def Store.settleAll (s : Store) (js : List Job) : Store :=
  js.foldl (fun s j => s.settle j.index) s

/-- The publisher after the first round of some jobs. -/
def Store.launchAll (s : Store) (js : List Job) : Store := js.foldl Store.launch s

/-- The publisher after some jobs have all settled. -/
def Store.served (s : Store) (js : List Job) : Store :=
  (s.launchAll js).settleAll (Job.endings js 0 (Job.longest js))

/-- The publisher after the sends of some jobs that wait were given up. -/
def Store.dropAll (s : Store) (js : List Job) : Store :=
  js.foldl (fun s j => if j.step.yields = 0 then s else s.drop) s

/-- The memory publisher with another way of leaving. -/
def leaving (leave : Action Store Unit) : Publisher Store Pending :=
  { publisher with leave := leave }

/-! ### Turns -/

variable (leave : Action Store Unit) (b : Context) (es : List Log.Entry) (s : Store)

theorem send_fresh (m : Message) :
    (Send.fresh m).turn (leaving leave) (Relay.keeping b es s) =
      let step := s.script.step m.destination s.sent.length
      let pending : Pending := ⟨s.sent.length, m.destination, step⟩
      if step.yields = 0 then
        (.ended pending.answer, Relay.keeping b es ((s.push m).settle s.sent.length))
      else (.waiting (step.yields - 1) pending, Relay.keeping b es (s.push m)) := by
  have hbegin : ((leaving leave).begin m).run (Relay.keeping b es s) =
      (.ok ((s.script.step m.destination s.sent.length).yields,
        ⟨s.sent.length, m.destination, s.script.step m.destination s.sent.length⟩),
        Relay.keeping b es (s.push m)) := rfl
  simp only [Send.turn]
  rw [bind_at, hbegin]
  cases (s.script.step m.destination s.sent.length).yields with
  | zero => rfl
  | succ left => rfl

theorem send_waiting_zero (pending : Pending) :
    (Send.waiting 0 pending).turn (leaving leave) (Relay.keeping b es s) =
      (.ended pending.answer, Relay.keeping b es (s.settle pending.index)) := rfl

theorem send_waiting_succ (left : Nat) (pending : Pending) :
    (Send.waiting (left + 1) pending).turn (leaving leave) (Relay.keeping b es s) =
      (.waiting left pending, Relay.keeping b es s) := rfl

namespace Job

variable (j : Job)

theorem turn_fresh (hi : j.index = s.sent.length)
    (hs : j.step = s.script.step j.message.destination s.sent.length) :
    j.fresh.turn (leaving leave) (Relay.keeping b es s) =
      (j.after 0, Relay.keeping b (es ++ (endingAt [j] 0).flatMap lines) (s.launch j)) := by
  rw [Task.turn_sending (show j.fresh.stage = .sending (.fresh j.message) from rfl)]
  refine Relay.under_run (c := j.bound) ?_
  rw [bind_at, send_fresh, ← hs, ← hi]
  by_cases hy : j.step.yields = 0
  · simp only [hy, if_true]
    rw [show (⟨j.index, j.message.destination, j.step⟩ : Pending) = j.pending from rfl]
    show j.fresh.conclude (.ended j.pending.answer) (Relay.keeping j.fresh.bound es _) = _
    rw [Task.conclude_ended]
    simp [after, hy, endingAt, Store.launch, lines, task, fresh, succeeds]
  · simp only [hy, if_false]
    rw [Task.conclude_waiting]
    simp [after, hy, endingAt, Store.launch, task, fresh, pending]

theorem turn_after (n : Nat) :
    (j.after n).turn (leaving leave) (Relay.keeping b es s) =
      (j.after (n + 1), Relay.keeping b (es ++ (endingAt [j] (n + 1)).flatMap lines)
        (s.settleAll (endingAt [j] (n + 1)))) := by
  -- the send has ended before, ends in this turn, or goes on waiting
  rcases Nat.lt_trichotomy j.step.yields (n + 1) with hy | hy | hy
  · have h1 : j.step.yields ≤ n := by omega
    have h2 : j.step.yields ≤ n + 1 := by omega
    have hne : j.step.yields ≠ n + 1 := by omega
    rw [Task.turn_counted (v := j.succeeds) (by simp [after, task, h1])]
    simp [after, h1, h2, endingAt, hne, Store.settleAll]
  · have h1 : ¬ j.step.yields ≤ n := by omega
    have hz : j.step.yields - n - 1 = 0 := by omega
    have hstage : (j.after n).stage = .sending (.waiting 0 j.pending) := by
      simp [after, task, h1, hz]
    rw [Task.turn_sending hstage]
    refine Relay.under_run (c := j.bound) ?_
    rw [bind_at, show (j.after n).bound = j.bound from rfl, send_waiting_zero]
    show (j.after n).conclude (.ended j.pending.answer) (Relay.keeping (j.after n).bound es _) = _
    rw [Task.conclude_ended]
    simp [after, hy, endingAt, Store.settleAll, lines, task, fresh, succeeds, pending,
      Task.reportLines]
  · have h1 : ¬ j.step.yields ≤ n := by omega
    have h2 : ¬ j.step.yields ≤ n + 1 := by omega
    have hne : j.step.yields ≠ n + 1 := by omega
    obtain ⟨left, hl⟩ : ∃ left, j.step.yields - n - 1 = left + 1 :=
      ⟨j.step.yields - n - 2, by omega⟩
    have hl' : j.step.yields - (n + 1) - 1 = left := by omega
    have hstage : (j.after n).stage = .sending (.waiting (left + 1) j.pending) := by
      simp [after, task, h1, hl]
    rw [Task.turn_sending hstage]
    refine Relay.under_run (c := j.bound) ?_
    rw [bind_at, show (j.after n).bound = j.bound from rfl, send_waiting_succ,
      Task.conclude_waiting]
    simp [after, h2, hl', endingAt, hne, Store.settleAll, task]

/-! ### Rounds -/

theorem endingAt_cons (j : Job) (js : List Job) (n : Nat) :
    endingAt (j :: js) n = endingAt [j] n ++ endingAt js n := by
  rw [show j :: js = [j] ++ js from rfl]
  exact List.filter_append ..

end Job

namespace Store

theorem settleAll_append (js ks : List Job) :
    s.settleAll (js ++ ks) = (s.settleAll js).settleAll ks := List.foldl_append ..

theorem launch_script (j : Job) : (s.launch j).script = s.script := by
  unfold launch; split <;> rfl

theorem launch_sent (j : Job) : (s.launch j).sent = s.sent ++ [j.message] := by
  unfold launch; split <;> rfl

end Store

theorem round_cons {p : Publisher Store Pending} {t t' : Task Pending}
    {ts ts' : List (Task Pending)} {r r' r'' : Relay Store} (ht : t.turn p r = (t', r'))
    (hts : Task.round p ts r' = (ts', r'')) :
    Task.round p (t :: ts) r = (t' :: ts', r'') := by
  simp only [Task.round]
  rw [bind_at, ht, bind_at, hts]; rfl

/-- The first round begins all sends in order, and ends those that yield not at all. -/
theorem round_fresh : ∀ (ms : List (Context × Message)) (es : List Log.Entry) (s : Store)
    (js : List Job), js = jobsFrom s.script s.sent.length ms →
    Task.round (leaving leave) (js.map Job.fresh) (Relay.keeping b es s) =
      (js.map (Job.after 0),
        Relay.keeping b (es ++ (Job.endingAt js 0).flatMap Job.lines) (s.launchAll js))
  | [], es, s, js, h => by
    subst h
    show (([], Relay.keeping b es s) : List (Task Pending) × Relay Store) =
      ([], Relay.keeping b (es ++ []) s)
    rw [List.append_nil]
  | (c, m) :: ms, es, s, js, h => by
    obtain ⟨j, hj⟩ : ∃ j : Job,
      j = ⟨c, m, s.sent.length, s.script.step m.destination s.sent.length⟩ := ⟨_, rfl⟩
    -- the first job leaves the script as it is and takes one number: the others follow on
    have hrest : jobsFrom s.script (s.sent.length + 1) ms =
        jobsFrom (s.launch j).script (s.launch j).sent.length ms := by
      rw [Store.launch_script, Store.launch_sent, List.length_append]; rfl
    have hjs : js = j :: jobsFrom (s.launch j).script (s.launch j).sent.length ms := by
      rw [h, jobsFrom, hrest, hj]
    have hturn := Job.turn_fresh leave b es s j (by rw [hj]) (by rw [hj])
    have hround := round_fresh ms (es ++ (Job.endingAt [j] 0).flatMap Job.lines) (s.launch j) _ rfl
    rw [hjs, List.map_cons, List.map_cons, Job.endingAt_cons, List.flatMap_append,
      ← List.append_assoc]
    exact round_cons hturn hround

/-- A later round ends the sends of one number of yields. -/
theorem round_after (n : Nat) : ∀ (js : List Job) (es : List Log.Entry) (s : Store),
    Task.round (leaving leave) (js.map (Job.after n)) (Relay.keeping b es s) =
      (js.map (Job.after (n + 1)),
        Relay.keeping b (es ++ (Job.endingAt js (n + 1)).flatMap Job.lines)
          (s.settleAll (Job.endingAt js (n + 1))))
  | [], es, s => by
    show (([], Relay.keeping b es s) : List (Task Pending) × Relay Store) =
      ([], Relay.keeping b (es ++ []) s)
    rw [List.append_nil]
  | j :: js, es, s => by
    have hturn := j.turn_after leave b es s n
    have hround := round_after n js (es ++ (Job.endingAt [j] (n + 1)).flatMap Job.lines)
      (s.settleAll (Job.endingAt [j] (n + 1)))
    rw [List.map_cons, List.map_cons, Job.endingAt_cons, List.flatMap_append, ← List.append_assoc,
      Store.settleAll_append]
    exact round_cons hturn hround

theorem Job.fault?_after (n : Nat) (j : Job) : (j.after n).fault? = none := by
  unfold after
  by_cases h : j.step.yields ≤ n
  · rw [if_pos h]; rfl
  · rw [if_neg h]; rfl

theorem Job.endings_succ (js : List Job) (n m : Nat) :
    endings js n (m + 1) = endingAt js (n + 1) ++ endings js (n + 1) m := by
  unfold endings
  rw [List.range_succ_eq_map, List.flatMap_cons, List.flatMap_map]
  congr 2
  funext k
  rw [show n + 1 + (k + 1) = n + 1 + 1 + k by omega]

/-- Rounds end the sends by their yields. -/
theorem rounds_after (js : List Job) : ∀ (m n : Nat) (es : List Log.Entry) (s : Store),
    Task.rounds (leaving leave) m (js.map (Job.after n)) (Relay.keeping b es s) =
      (js.map (Job.after (n + m)),
        Relay.keeping b (es ++ (Job.endings js n m).flatMap Job.lines)
          (s.settleAll (Job.endings js n m)))
  | 0, n, es, s => by
    show (_, Relay.keeping b es s) = (_, Relay.keeping b (es ++ []) s)
    rw [List.append_nil]; rfl
  | m + 1, n, es, s => by
    have hnone : (js.map (Job.after n)).any (fun t => t.fault?.isSome) = false := by
      rw [List.any_eq_false]
      intro t ht
      obtain ⟨j, -, rfl⟩ := List.mem_map.mp ht
      rw [Job.fault?_after]; simp
    rw [Task.rounds, hnone, if_neg (by simp), bind_at, round_after, rounds_after js m,
      Job.endings_succ, List.flatMap_append, ← List.append_assoc, Store.settleAll_append,
      show n + 1 + m = n + (m + 1) by omega]

theorem longest_after : ∀ js : List Job, Task.longest (js.map (Job.after 0)) = Job.longest js
  | [] => rfl
  | j :: js => by
    have hj : (j.after 0).remaining = j.step.yields := by
      unfold Job.after Job.task Task.remaining Send.remaining
      by_cases hy : j.step.yields = 0
      · simp [hy]
      · have hle : ¬ j.step.yields ≤ 0 := by omega
        simp only [hle, if_false]; omega
    rw [List.map_cons, Task.longest, Job.longest, hj, longest_after js]

theorem Job.yields_le_longest : ∀ {js : List Job} {j : Job}, j ∈ js → j.step.yields ≤ longest js
  | k :: ks, j, h => by
    rw [longest]
    obtain rfl | h := List.mem_cons.mp h
    · exact Nat.le_max_left ..
    · exact Nat.le_trans (yields_le_longest h) (Nat.le_max_right ..)

theorem Job.schedule_eq (js : List Job) :
    schedule js = endingAt js 0 ++ endings js 0 (longest js) := by
  unfold schedule endings
  rw [List.range_succ_eq_map, List.flatMap_cons, List.flatMap_map]
  congr 2
  funext k
  rw [show 0 + 1 + k = k.succ by omega]

/-- **Waiting for a batch** ends each send once, in the order of the schedule, and counts each by
the answer of its step. -/
theorem settle_jobs {ms : List (Context × Message)} {js : List Job}
    (h : js = jobsFrom s.script s.sent.length ms) :
    Task.settle (leaving leave) (js.map Job.fresh) (Relay.keeping b es s) =
      (js.map fun j => j.task (.counted j.succeeds),
        Relay.keeping b (es ++ (Job.schedule js).flatMap Job.lines) (s.served js)) := by
  have hlast : js.map (Job.after (0 + Job.longest js)) =
      js.map fun j => j.task (.counted j.succeeds) := by
    refine List.map_congr_left fun j hj => ?_
    have hle : j.step.yields ≤ 0 + Job.longest js := by
      have := Job.yields_le_longest hj
      omega
    simp only [Job.after, hle, if_true]
  rw [Task.settle, bind_at, round_fresh leave b ms es s js h, longest_after, rounds_after,
    hlast, Job.schedule_eq, List.flatMap_append, ← List.append_assoc]
  rfl

theorem cancelAll_after : ∀ (js : List Job) (s : Store),
    Task.cancelAll (leaving leave) (js.map (Job.after 0)) (Relay.keeping b es s) =
      ((), Relay.keeping b es (s.dropAll js))
  | [], s => rfl
  | j :: js, s => by
    have hj : (j.after 0).cancel (leaving leave) (Relay.keeping b es s) =
        ((), Relay.keeping b es (if j.step.yields = 0 then s else s.drop)) := by
      by_cases hy : j.step.yields = 0
      · have hstage : j.after 0 = j.task (.counted j.succeeds) := by simp [Job.after, hy]
        rw [hstage, if_pos hy]; rfl
      · have hstage : j.after 0 =
            j.task (.sending (.waiting (j.step.yields - 0 - 1) j.pending)) := by
          simp [Job.after, hy]
        rw [hstage, if_neg hy]; rfl
    rw [List.map_cons, Task.cancelAll, bind_at, hj]
    exact cancelAll_after js _

end StreamRelay.Memory
