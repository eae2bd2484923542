import StreamRelay.Proofs.Fidelity

/-!
# The lines of one record

What is written of a record that is decided on is a segment of the log: the line that the record is
checked, remarks on values of its images, and one line of what was decided (`Decision.line`). The
remarks name the fields that the new image lacks, in the order in which they are required
(`Remarks`), and only of a record that is skipped for them (`StreamRecord.Lacks`).
-/

namespace StreamRelay

/-! ### Sequences that come to a result -/

/-- A sequence that comes to a result has parts that do, and writes what they write. -/
theorem Logged.bind_ok {α β : Type} {x : Logged α} {f : α → Logged β} {c : β} (hx : x.Steady)
    (hf : ∀ a, (f a).Steady) (h : (x >>= f).result = .ok c) :
    ∃ a, x.result = .ok a ∧ (f a).result = .ok c ∧
      ∀ b, (x >>= f).lines b = x.lines b ++ (f a).lines b := by
  rw [result_bind hx hf] at h
  cases ha : x.result with
  | error fault => rw [ha] at h; cases h
  | ok a =>
    rw [ha] at h
    refine ⟨a, rfl, h, fun b => ?_⟩
    rw [lines_bind hx hf, ha]
    rfl

/-! ### Remarks -/

namespace Log

def unreadable (b : Context) (name reason : String) : Log.Entry :=
  ⟨.warning, Image.logger, "Unreadable binary attribute",
    [("attribute", .text name), ("error", .text reason)], b⟩

def missingField (b : Context) (name : String) : Log.Entry :=
  ⟨.info, Decision.logger, "New item missing field", [("field", .text name)], b⟩

end Log

/-- Lines that say of some values that they cannot be read, and name the missing fields in order. -/
inductive Remarks (b : Context) : List String → List Log.Entry → Prop where
  | nil : Remarks b [] []
  | unreadable {missing : List String} {es : List Log.Entry} (name reason : String)
    (h : Remarks b missing es) : Remarks b missing (Log.unreadable b name reason :: es)
  | missing {missing : List String} {es : List Log.Entry} (name : String)
    (h : Remarks b missing es) : Remarks b (name :: missing) (Log.missingField b name :: es)

variable {b : Context}

theorem Remarks.after {missing : List String} {es' : List Log.Entry} (h' : Remarks b missing es') :
    ∀ {es : List Log.Entry}, Remarks b [] es → Remarks b missing (es ++ es')
  | _, .nil => h'
  | _, .unreadable name reason h => (after h' h).unreadable name reason

namespace Image

variable (i : Image)

theorem remarks_binary? (name : String) (b : Context) : Remarks b [] ((i.binary? name).lines b) := by
  unfold binary?
  cases i.raw? name .binary with
  | none => exact .nil
  | some raw =>
    simp only []
    split
    · exact .nil
    · exact Remarks.nil.unreadable _ _
    · exact .nil

theorem remarks_get? (name : String) (tag : Tag) (b : Context) :
    Remarks b [] ((i.get? name tag).lines b) := by
  cases tag with
  | binary =>
    have h : (i.get? name .binary).lines b = (i.binary? name).lines b ++
        Logged.linesAfter (fun bs => pure (bs.map Value.bytes)) b (i.binary? name).result :=
      Logged.lines_bind (i.steady_binary? name) (fun _ => Logged.steady_pure _) b
    rw [h]
    refine Remarks.after ?_ (i.remarks_binary? name b)
    cases (i.binary? name).result <;> exact .nil
  | _ => exact .nil

/-- Looking for fields remarks on those that are absent. -/
theorem remarks_absentAmong (b : Context) : ∀ {fields : List (String × Tag)} {missing : List String},
    (i.absentAmong fields).result = .ok missing →
      Remarks b missing ((i.absentAmong fields).lines b)
  | [], missing, h => by
    cases h
    exact .nil
  | (name, tag) :: fields, missing, h => by
    have hs := i.steady_absentAmong fields
    rw [absentAmong] at h ⊢
    obtain ⟨v, -, hrest, hlines⟩ := Logged.bind_ok (i.steady_get? name tag) (fun v => by
      cases v with
      | some _ => exact hs
      | none => exact (Logged.steady_write _ _ _ _).bind fun _ =>
          hs.bind fun _ => Logged.steady_pure _) h
    rw [hlines]
    refine Remarks.after ?_ (i.remarks_get? name tag b)
    cases v with
    | some _ => exact remarks_absentAmong b hrest
    | none =>
      obtain ⟨-, -, hrest, hwrite⟩ := Logged.bind_ok (Logged.steady_write _ _ _ _)
        (fun _ => hs.bind fun _ => Logged.steady_pure _) hrest
      obtain ⟨names, hnames, hpure, hnext⟩ := Logged.bind_ok hs (fun _ => Logged.steady_pure _) hrest
      cases hpure
      rw [hwrite, hnext, show (pure (name :: names) : Logged _).lines b = [] from rfl,
        List.append_nil]
      exact (remarks_absentAmong b hnames).missing name

theorem absentFields_sublist {missing : List String} (h : i.absentFields.result = .ok missing) :
    missing.Sublist ["XML", "Identifier", "BaseUrl"] := by
  rw [absentFields_result] at h
  cases hp : i.payload?.result with
  | error fault => rw [hp] at h; cases h
  | ok payload =>
    rw [hp] at h
    cases h
    unfold absentWith
    cases payload.isSome <;> cases (i.raw? "Identifier" .string).isSome <;>
      cases (i.raw? "BaseUrl" .string).isSome <;> decide

end Image

/-! ### Decisions -/

namespace StreamRecord

variable (r : StreamRecord) (expected : Value)

/-- The line that says why a record is skipped, of which the given fields are missing. -/
def skipLine (missing : List String) (b : Context) : SkipReason → Log.Entry
  | .wrongSource => ⟨.warning, Decision.logger,
      "Not a stream event from the expected source -- skipping record",
      [("event_source", r.source), ("expected_source", expected)], b⟩
  | .noNewImage => ⟨.warning, Decision.logger, "No new item -- skipping record", [], b⟩
  | .invalidNewImage => ⟨.warning, Decision.logger, "New item is invalid -- skipping record",
      [("missing", .list (missing.map .text))], b⟩
  | .noChecksum => ⟨.warning, Decision.logger, "New item has no checksum -- skipping record", [], b⟩
  | .unchanged => ⟨.info, Decision.logger, "Old and new checksums match -- skipping record", [], b⟩

/-- The lines of a decision are remarks and, of a record that is skipped, the reason. -/
def Told (missing : List String) (b : Context) (d : Decision) (es : List Log.Entry) : Prop :=
  ∃ remarks, Remarks b missing remarks ∧
    es = remarks ++ (d.skipReason?.map (r.skipLine expected missing b)).toList

/-- The new image of a record lacks the given fields, if the decision has come to look for them;
there are such fields exactly if the record is skipped for them. -/
structure Lacks (d : Decision) (missing : List String) : Prop where
  absent : ∀ image, r.newImage = some image → d.skipReason? ≠ some .wrongSource →
    image.absentFields.result = .ok missing
  invalid : missing ≠ [] ↔ d.skipReason? = some .invalidNewImage
  order : missing.Sublist ["XML", "Identifier", "BaseUrl"]

variable {r expected} {image : Image} {d : Decision}

theorem Told.after {missing : List String} {es es' : List Log.Entry}
    (h' : r.Told expected missing b d es') (h : Remarks b [] es) :
    r.Told expected missing b d (es ++ es') := by
  obtain ⟨remarks, hremarks, rfl⟩ := h'
  exact ⟨es ++ remarks, hremarks.after h, (List.append_assoc ..).symm⟩

theorem remarks_oldChecksum? (r : StreamRecord) (b : Context) :
    Remarks b [] (r.oldChecksum?.lines b) := by
  unfold oldChecksum?
  cases r.oldImage with
  | none => exact .nil
  | some old => exact old.remarks_binary? "XMLChecksum" b

theorem checkChange_told {sum : List UInt8} (h : (r.checkChange image sum).result = .ok d)
    (expected : Value) (b : Context) :
    (d = .skipped .unchanged ∨ d = .accepted image) ∧
      r.Told expected [] b d ((r.checkChange image sum).lines b) := by
  obtain ⟨before, -, hrest, hlines⟩ := Logged.bind_ok r.steady_oldChecksum? (fun before => by
    split
    · exact steady_skip _ _ _ _
    · exact Logged.steady_pure _) h
  rw [checkChange, hlines]
  by_cases hsum : before = some sum
  · rw [if_pos hsum] at hrest ⊢
    cases hrest
    exact ⟨.inl rfl, Told.after ⟨[], .nil, rfl⟩ (r.remarks_oldChecksum? b)⟩
  · rw [if_neg hsum] at hrest ⊢
    cases hrest
    exact ⟨.inr rfl, Told.after ⟨[], .nil, rfl⟩ (r.remarks_oldChecksum? b)⟩

theorem checkSum_told (h : (r.checkSum image).result = .ok d) (expected : Value) (b : Context) :
    (d = .skipped .noChecksum ∨ d = .skipped .unchanged ∨ d = .accepted image) ∧
      r.Told expected [] b d ((r.checkSum image).lines b) := by
  obtain ⟨sum, -, hrest, hlines⟩ := Logged.bind_ok image.steady_checksum? (fun sum => by
    cases sum with
    | none => exact steady_skip _ _ _ _
    | some sum => exact r.steady_checkChange image sum) h
  have hremarks : Remarks b [] (image.checksum?.lines b) := image.remarks_binary? "XMLChecksum" b
  rw [checkSum, hlines]
  cases sum with
  | none =>
    cases hrest
    exact ⟨.inl rfl, Told.after ⟨[], .nil, rfl⟩ hremarks⟩
  | some sum =>
    obtain ⟨hd, htold⟩ := checkChange_told hrest expected b
    exact ⟨.inr hd, htold.after hremarks⟩

theorem checkImage_told (h : (r.checkImage image).result = .ok d) (expected : Value)
    (b : Context) :
    ∃ missing, image.absentFields.result = .ok missing ∧
      (missing ≠ [] ∧ d = .skipped .invalidNewImage ∨ missing = [] ∧
        (d = .skipped .noChecksum ∨ d = .skipped .unchanged ∨ d = .accepted image)) ∧
      r.Told expected missing b d ((r.checkImage image).lines b) := by
  obtain ⟨missing, hmissing, hrest, hlines⟩ := Logged.bind_ok image.steady_absentFields
    (fun missing => by
      split
      · exact r.steady_checkSum image
      · exact steady_skip _ _ _ _) h
  have hremarks : Remarks b missing (image.absentFields.lines b) :=
    image.remarks_absentAmong b hmissing
  refine ⟨missing, hmissing, ?_⟩
  rw [checkImage, hlines]
  by_cases hnil : missing = []
  · rw [if_pos hnil] at hrest ⊢
    obtain ⟨hd, htold⟩ := checkSum_told hrest expected b
    subst hnil
    exact ⟨.inr ⟨rfl, hd⟩, htold.after hremarks⟩
  · rw [if_neg hnil] at hrest ⊢
    cases hrest
    exact ⟨.inl ⟨hnil, rfl⟩, _, hremarks, rfl⟩

/-- **What is written of a decision**: remarks that name the fields that the record lacks, and the
reason for skipping it if there is one. -/
theorem decision_told (h : (r.decision expected).result = .ok d) (b : Context) :
    ∃ missing, r.Lacks d missing ∧
      r.Told expected missing b d ((r.decision expected).lines b) := by
  unfold decision at h ⊢
  by_cases hsource : r.source.equals expected = true
  · rw [if_pos hsource] at h ⊢
    cases hi : r.newImage with
    | none =>
      rw [hi] at h
      cases h
      refine ⟨[], ⟨fun _ hsome => ?_, by simp [Decision.skipReason?], List.nil_sublist _⟩,
        [], .nil, rfl⟩
      rw [hi] at hsome
      cases hsome
    | some image =>
      rw [hi] at h
      obtain ⟨missing, hmissing, hd, htold⟩ := checkImage_told h expected b
      refine ⟨missing, ⟨fun image' hsome _ => ?_, ?_, image.absentFields_sublist hmissing⟩, htold⟩
      · rw [hi] at hsome
        rw [← Option.some.inj hsome]
        exact hmissing
      · obtain ⟨hne, rfl⟩ | ⟨rfl, rfl | rfl | rfl⟩ := hd
        · simpa [Decision.skipReason?] using hne
        · simp [Decision.skipReason?]
        · simp [Decision.skipReason?]
        · simp [Decision.skipReason?]
  · rw [if_neg hsource] at h ⊢
    cases h
    exact ⟨[], ⟨fun _ _ hne => absurd rfl hne, by simp [Decision.skipReason?],
      List.nil_sublist _⟩, [], .nil, rfl⟩

/-! ### Segments -/

/-- The last line of a record: the reason why it is skipped, or that it is sent to the queues. -/
def lastLine (r : StreamRecord) (expected : Value) (queues : Nat) (missing : List String)
    (b : Context) : Decision → Log.Entry
  | .skipped reason => r.skipLine expected missing b reason
  | .accepted _ => ⟨.info, Task.logger, "Sending record", [("queues", .int queues)], b⟩

/-- The lines of a record under the names `b`: that it is checked, remarks that name the fields that
it lacks, and a last line. -/
structure Segment (expected : Value) (queues : Nat) (r : StreamRecord) (b : Context) (d : Decision)
    (missing : List String) (es : List Log.Entry) : Prop where
  decided : (r.decision expected).result = .ok d
  lines : ∃ remarks, Remarks b missing remarks ∧
    es = ⟨.debug, Task.logger, "Checking record", [], b⟩ :: remarks ++
      [r.lastLine expected queues missing b d]
  lacks : r.Lacks d missing

/-- The lines are a segment of the record that a value holds, under some names. -/
def SegmentOf (expected : Value) (queues : Nat) (raw : Value) (es : List Log.Entry) : Prop :=
  ∃ b d missing, Segment expected queues (ofValue raw) b d missing es

end StreamRecord

namespace FanOut

open StreamRecord

variable {queues expected raw : Value} {qs : List Value} (hq : queues.members? = some qs)

include hq

theorem messagesOf_accepted_lines {image : Image}
    (h : ((ofValue raw).decision expected).result = .ok (.accepted image)) (b : Context) :
    (messagesOf queues (.accepted image)).lines b =
      [(ofValue raw).lastLine expected qs.length [] b (.accepted image)] := by
  obtain ⟨-, ⟨v, bs, hraw, hbytes⟩, -⟩ := spells_of_accepts h
  have hbuild : (image.messagesTo qs).lines b = [] := by
    rw [Logged.lines, Image.messagesTo_of_payload (Image.binary?_of_bytes? hraw hbytes _)]
    rfl
  simp only [messagesOf, Value.items?_of_members? hq]
  rw [Logged.lines_bind (Logged.steady_write _ _ _ _) fun _ => image.steady_messagesTo qs,
    Logged.result_write, Logged.linesAfter, hbuild]
  rfl

/-- **What is written of a record** that is decided on is a segment. -/
theorem messages_segment {d : Decision} (h : ((ofValue raw).decision expected).result = .ok d)
    (b : Context) :
    SegmentOf expected qs.length raw ((messages queues expected (ofValue raw)).lines b) := by
  obtain ⟨missing, hlacks, remarks, hremarks, htold⟩ := decision_told h b
  have hdecision := steady_decision (ofValue raw) expected
  have hlines : (messages queues expected (ofValue raw)).lines b =
      ⟨.debug, Task.logger, "Checking record", [], b⟩ ::
        (((ofValue raw).decision expected).lines b ++ (messagesOf queues d).lines b) := by
    unfold messages
    rw [Logged.lines_bind (Logged.steady_write _ _ _ _) fun _ =>
      hdecision.bind fun d => steady_messagesOf queues d, Logged.result_write, Logged.linesAfter,
      Logged.lines_bind hdecision fun d => steady_messagesOf queues d, h]
    rfl
  refine ⟨b, d, missing, h, ⟨remarks, hremarks, ?_⟩, hlacks⟩
  rw [hlines, htold]
  cases d with
  | skipped reason =>
    rw [show (messagesOf queues (.skipped reason)).lines b = [] from rfl, List.append_nil]
    rfl
  | accepted image =>
    have hnil : missing = [] := by simpa [Decision.skipReason?] using hlacks.invalid
    rw [messagesOf_accepted_lines hq h, hnil]
    simp [Decision.skipReason?]

end FanOut

end StreamRelay
