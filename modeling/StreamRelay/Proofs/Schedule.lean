import StreamRelay.Proofs.Jobs

/-!
# The schedule of a batch

The jobs of a batch settle sorted by their yields, each once (`schedule_perm`). So, once they have
all settled, a publisher has the messages of the batch behind those it had before, in order, and
their indices, once each, behind those that had settled (`serving_served`); the tally counts the
steps that succeed (`tally_jobsFrom`).
-/

namespace StreamRelay.Memory

variable (s : Store)

/-! ### The schedule -/

namespace Job

theorem filter_le_perm (js : List Job) (n : Nat) :
    (js.filter (·.step.yields < n) ++ endingAt js n).Perm (js.filter (·.step.yields < n + 1)) := by
  have h := List.filter_append_perm (·.step.yields < n) (js.filter (·.step.yields < n + 1))
  rw [List.filter_filter, List.filter_filter] at h
  have hlt : (js.filter fun j => decide (j.step.yields < n) && decide (j.step.yields < n + 1)) =
      js.filter (·.step.yields < n) :=
    List.filter_congr fun j _ => by
      by_cases hj : j.step.yields < n
      · have : j.step.yields < n + 1 := by omega
        simp [hj, this]
      · simp [hj]
  have heq : (js.filter fun j => !decide (j.step.yields < n) && decide (j.step.yields < n + 1)) =
      endingAt js n :=
    List.filter_congr fun j _ => by
      rw [Bool.eq_iff_iff]
      simp only [Bool.and_eq_true, Bool.not_eq_true', decide_eq_true_eq, decide_eq_false_iff_not]
      omega
  rwa [hlt, heq] at h

theorem endingAt_perm (js : List Job) :
    ∀ n, ((List.range n).flatMap (endingAt js)).Perm (js.filter (·.step.yields < n))
  | 0 => by simp
  | n + 1 => by
    rw [List.range_succ, List.flatMap_append, List.flatMap_cons, List.flatMap_nil, List.append_nil]
    exact ((endingAt_perm js n).append_right _).trans (filter_le_perm js n)

/-- The schedule has each job once. -/
theorem schedule_perm (js : List Job) : (schedule js).Perm js := by
  have hall : js.filter (·.step.yields < longest js + 1) = js :=
    List.filter_eq_self.mpr fun j hj => by
      have := yields_le_longest hj
      simp only [decide_eq_true_eq]; omega
  have h := endingAt_perm js (longest js + 1)
  rwa [hall] at h

theorem index_jobsFrom (script : Script) : ∀ (ms : List (Context × Message)) (n : Nat),
    (jobsFrom script n ms).map index = List.range' n ms.length
  | [], _ => rfl
  | (c, m) :: ms, n => by
    rw [jobsFrom, List.map_cons, index_jobsFrom script ms, List.length_cons, List.range'_succ]

theorem message_jobsFrom (script : Script) : ∀ (ms : List (Context × Message)) (n : Nat),
    (jobsFrom script n ms).map message = ms.map Prod.snd
  | [], _ => rfl
  | (c, m) :: ms, n => by
    rw [jobsFrom, List.map_cons, message_jobsFrom script ms, List.map_cons]

theorem fresh_jobsFrom (script : Script) : ∀ (ms : List (Context × Message)) (n : Nat),
    (jobsFrom script n ms).map fresh = ms.map fun cm => Task.create cm.1 cm.2
  | [], _ => rfl
  | (c, m) :: ms, n => by
    rw [jobsFrom, List.map_cons, fresh_jobsFrom script ms, List.map_cons]; rfl

end Job

/-! ### What a batch leaves behind -/

namespace Store

/-- A publisher differs from an earlier one only in what was sent and settled since, and in the
sends in flight. -/
structure Serving (s t : Store) (messages : List Message) (indices : List Nat) : Prop where
  script : t.script = s.script
  entered : t.entered = s.entered
  exited : t.exited = s.exited
  sent : t.sent = s.sent ++ messages
  settled : t.settled = s.settled ++ indices

theorem Serving.refl : Serving s s [] [] := ⟨rfl, rfl, rfl, by simp, by simp⟩

theorem Serving.trans {s t u : Store} {ms ns : List Message} {is js : List Nat}
    (h : Serving s t ms is) (h' : Serving t u ns js) : Serving s u (ms ++ ns) (is ++ js) where
  script := h'.script.trans h.script
  entered := h'.entered.trans h.entered
  exited := h'.exited.trans h.exited
  sent := by rw [h'.sent, h.sent, List.append_assoc]
  settled := by rw [h'.settled, h.settled, List.append_assoc]

theorem serving_launch (j : Job) :
    Serving s (s.launch j) [j.message] ((Job.endingAt [j] 0).map Job.index) := by
  by_cases hy : j.step.yields = 0
  · rw [launch, if_pos hy]
    exact ⟨rfl, rfl, rfl, rfl, by simp [Job.endingAt, hy, settle, push]⟩
  · rw [launch, if_neg hy]
    exact ⟨rfl, rfl, rfl, rfl, by simp [Job.endingAt, hy, push]⟩

theorem serving_launchAll : ∀ (js : List Job) (s : Store),
    Serving s (s.launchAll js) (js.map Job.message) ((Job.endingAt js 0).map Job.index)
  | [], s => .refl s
  | j :: js, s => by
    rw [Job.endingAt_cons, List.map_append]
    exact (s.serving_launch j).trans (serving_launchAll js (s.launch j))

theorem serving_settleAll : ∀ (js : List Job) (s : Store),
    Serving s (s.settleAll js) [] (js.map Job.index)
  | [], s => .refl s
  | j :: js, s =>
    have hj : Serving s (s.settle j.index) [] [j.index] := ⟨rfl, rfl, rfl, by simp [settle], rfl⟩
    hj.trans (serving_settleAll js (s.settle j.index))

theorem serving_dropAll : ∀ (js : List Job) (s : Store), Serving s (s.dropAll js) [] []
  | [], s => .refl s
  | j :: js, s => by
    have hj : Serving s (if j.step.yields = 0 then s else s.drop) [] [] := by
      split
      · exact .refl s
      · exact ⟨rfl, rfl, rfl, by simp [drop], by simp [drop]⟩
    exact hj.trans (serving_dropAll js _)

theorem serving_dropped (js : List Job) :
    Serving s ((s.launchAll js).dropAll js) (js.map Job.message)
      ((Job.endingAt js 0).map Job.index) := by
  have h := (serving_launchAll js s).trans (serving_dropAll js (s.launchAll js))
  rwa [List.append_nil, List.append_nil] at h

theorem serving_served (js : List Job) :
    Serving s (s.served js) (js.map Job.message) ((Job.schedule js).map Job.index) := by
  rw [Job.schedule_eq, List.map_append]
  have h := (serving_launchAll js s).trans
    (serving_settleAll (Job.endings js 0 (Job.longest js)) (s.launchAll js))
  rwa [List.append_nil] at h

end Store

/-! ### The tally -/

/-- The step of the send of a message with the given number does not raise, and gives a truthy
success. -/
def Script.succeeds (script : Script) (send : Message × Nat) : Bool :=
  let step := script.step send.1.destination send.2
  step.fault.isNone && step.success.isTruthy

/-- The tally of messages sent from the `n`-th send on. -/
def Script.tally (script : Script) (n : Nat) (ms : List Message) : Tally where
  successes := (ms.zipIdx n).countP script.succeeds
  failures := (ms.zipIdx n).countP fun send => !script.succeeds send

theorem Job.succeeds_eq (j : Job) :
    j.succeeds = (j.step.fault.isNone && j.step.success.isTruthy) := by
  unfold succeeds Task.succeeded pending Pending.answer
  cases j.step.fault <;> rfl

theorem Job.succeeds_jobsFrom (script : Script) : ∀ (ms : List (Context × Message)) (n : Nat),
    (jobsFrom script n ms).map succeeds = ((ms.map Prod.snd).zipIdx n).map script.succeeds
  | [], _ => rfl
  | (c, m) :: ms, n => by
    rw [jobsFrom, List.map_cons, succeeds_jobsFrom script ms, succeeds_eq]; rfl

theorem tally_jobsFrom (script : Script) (n : Nat) (ms : List (Context × Message)) :
    Task.tally ((jobsFrom script n ms).map fun j => j.task (.counted j.succeeds)) =
      script.tally n (ms.map Prod.snd) := by
  have hverdicts : ((jobsFrom script n ms).map fun j =>
      j.task (.counted j.succeeds)).filterMap Task.verdict? =
        ((ms.map Prod.snd).zipIdx n).map script.succeeds := by
    rw [← Job.succeeds_jobsFrom, List.filterMap_map, ← List.filterMap_eq_map]
    rfl
  rw [Task.tally, hverdicts, Tally.foldl_count]
  simp [Script.tally, Tally.zero, List.countP_map, Function.comp_def]

theorem Script.tally_total (script : Script) (n : Nat) (ms : List Message) :
    (script.tally n ms).successes + (script.tally n ms).failures = ms.length := by
  have h := List.length_eq_countP_add_countP script.succeeds (l := ms.zipIdx n)
  have hfailures : ((ms.zipIdx n).countP fun send => !script.succeeds send) =
      (ms.zipIdx n).countP fun send => decide ¬script.succeeds send = true :=
    List.countP_congr fun send _ => by simp
  rw [List.length_zipIdx] at h
  simp only [tally]
  omega

end StreamRelay.Memory
