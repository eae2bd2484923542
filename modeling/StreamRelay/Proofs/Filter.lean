import StreamRelay.Proofs.Reading

/-!
# What the checks accept

The checks of a record, each stated on its own of the value that holds the record. A record aborts
when text outside ASCII stands where a check reads bytes (`aborts`), which is all that makes a
decision fail (`decision_result`); on every other record the decision is that of the first check
that fails (`decision_first_failing`).
-/

namespace StreamRelay

namespace Image

theorem steady_absentAmong (i : Image) :
    ∀ fields : List (String × Tag), (i.absentAmong fields).Steady
  | [] => Logged.steady_pure _
  | (name, tag) :: fields => by
    refine (i.steady_get? name tag).bind fun v => ?_
    cases v with
    | some _ => exact i.steady_absentAmong fields
    | none =>
      exact (Logged.steady_write _ _ _ _).bind fun _ =>
        (i.steady_absentAmong fields).bind fun _ => Logged.steady_pure _

theorem steady_absentFields (i : Image) : i.absentFields.Steady := i.steady_absentAmong _

theorem absentAmong_cons_result (i : Image) (name : String) (tag : Tag)
    (fields : List (String × Tag)) :
    (i.absentAmong ((name, tag) :: fields)).result =
      (i.get? name tag).result.bind fun v => (i.absentAmong fields).result.bind fun names =>
        .ok (if v.isSome then names else name :: names) := by
  have hs := i.steady_absentAmong fields
  rw [absentAmong, Logged.result_bind (i.steady_get? name tag)]
  · congr 1
    funext v
    cases v with
    | some _ => cases (i.absentAmong fields).result <;> rfl
    | none =>
      show (Log.write _ _ _ _ >>= fun _ => i.absentAmong fields >>= fun names =>
        pure (name :: names)).result = _
      rw [Logged.result_bind (Logged.steady_write _ _ _ _) fun _ =>
        hs.bind fun _ => Logged.steady_pure _, Logged.result_write]
      show (i.absentAmong fields >>= fun names => pure (name :: names)).result = _
      rw [Logged.result_bind hs fun _ => Logged.steady_pure _]
      rfl
  · intro v
    cases v with
    | some _ => exact hs
    | none =>
      exact (Logged.steady_write _ _ _ _).bind fun _ => hs.bind fun _ => Logged.steady_pure _

/-- The names of the required fields that are absent, where the payload has been read. -/
def absentWith (i : Image) (payload : Option (List UInt8)) : List String :=
  (if payload.isSome then [] else ["XML"]) ++
    (if (i.raw? "Identifier" .string).isSome then [] else ["Identifier"]) ++
    (if (i.raw? "BaseUrl" .string).isSome then [] else ["BaseUrl"])

theorem absentFields_result (i : Image) :
    i.absentFields.result = i.payload?.result.bind fun payload => .ok (i.absentWith payload) := by
  rw [absentFields, requiredFields, absentAmong_cons_result, absentAmong_cons_result,
    absentAmong_cons_result, get?_binary_result, get?_string_result, get?_string_result]
  show ((i.binary? "XML").result.bind _).bind _ = (i.binary? "XML").result.bind _
  cases (i.binary? "XML").result with
  | error fault => rfl
  | ok payload =>
    simp only [Except.bind, absentAmong, Logged.result_pure, absentWith, Option.isSome_map]
    cases payload <;> cases i.raw? "Identifier" .string <;> cases i.raw? "BaseUrl" .string <;> rfl

end Image

namespace StreamRecord

/-! ### The steps of a decision -/

theorem steady_skip (reason : SkipReason) (level : Log.Level) (event : String) (fields : Context) :
    (skip reason level event fields).Steady :=
  (Logged.steady_write _ _ _ _).bind fun _ => Logged.steady_pure _

theorem steady_oldChecksum? (r : StreamRecord) : r.oldChecksum?.Steady := by
  unfold oldChecksum?
  split
  · exact Logged.steady_pure _
  · exact Image.steady_checksum? _

theorem steady_checkChange (r : StreamRecord) (image : Image) (sum : List UInt8) :
    (r.checkChange image sum).Steady := by
  refine r.steady_oldChecksum?.bind fun before => ?_
  split
  · exact steady_skip _ _ _ _
  · exact Logged.steady_pure _

theorem steady_checkSum (r : StreamRecord) (image : Image) : (r.checkSum image).Steady := by
  refine image.steady_checksum?.bind fun sum => ?_
  cases sum with
  | none => exact steady_skip _ _ _ _
  | some sum => exact r.steady_checkChange image sum

theorem steady_checkImage (r : StreamRecord) (image : Image) : (r.checkImage image).Steady := by
  refine image.steady_absentFields.bind fun missing => ?_
  split
  · exact r.steady_checkSum image
  · exact steady_skip _ _ _ _

theorem steady_decision (r : StreamRecord) (expected : Value) : (r.decision expected).Steady := by
  unfold decision
  split
  · split
    · exact steady_skip _ _ _ _
    · exact r.steady_checkImage _
  · exact steady_skip _ _ _ _

theorem checkChange_result (r : StreamRecord) (image : Image) (sum : List UInt8) :
    (r.checkChange image sum).result = r.oldChecksum?.result.bind fun before =>
      .ok (if before = some sum then .skipped .unchanged else .accepted image) := by
  unfold checkChange
  rw [Logged.result_bind r.steady_oldChecksum?]
  · congr 1
    funext before
    split <;> rfl
  · intro before
    split
    · exact steady_skip _ _ _ _
    · exact Logged.steady_pure _

theorem checkSum_result (r : StreamRecord) (image : Image) :
    (r.checkSum image).result = image.checksum?.result.bind fun sum =>
      match sum with
      | none => .ok (.skipped .noChecksum)
      | some sum => (r.checkChange image sum).result := by
  unfold checkSum
  rw [Logged.result_bind image.steady_checksum?]
  · congr 1
    funext sum
    cases sum <;> rfl
  · intro sum
    cases sum with
    | none => exact steady_skip _ _ _ _
    | some sum => exact r.steady_checkChange image sum

theorem checkImage_result (r : StreamRecord) (image : Image) :
    (r.checkImage image).result = image.payload?.result.bind fun payload =>
      if image.absentWith payload = [] then (r.checkSum image).result
      else .ok (.skipped .invalidNewImage) := by
  unfold checkImage
  rw [Logged.result_bind image.steady_absentFields, Image.absentFields_result]
  · cases image.payload?.result with
    | error fault => rfl
    | ok payload =>
      simp only [Except.bind]
      split <;> rfl
  · intro missing
    split
    · exact r.steady_checkSum image
    · exact steady_skip _ _ _ _

/-! ### The checks -/

def imageAt (raw : Value) (key : String) : Option Image :=
  (raw.at? ["dynamodb", key]).bind Image.ofValue?

/-- Text outside ASCII stands under a name and the tag of bytes in an image of a record. -/
def foreignAt (raw : Value) (key name : String) : Bool :=
  (raw.at? ["dynamodb", key, name, "B"]).any Value.isForeign

def bytesAt (raw : Value) (key name : String) : Option (List UInt8) :=
  (raw.at? ["dynamodb", key, name, "B"]).bind Value.bytes?

/-- The new image of a record has a text, or any value but null, under a name. -/
def hasText (raw : Value) (name : String) : Bool :=
  (raw.at? ["dynamodb", "NewImage", name, "S"]).any (!·.isNull)

/-- The check whose failure is the given reason for skipping a record. -/
def passes (raw expected : Value) : SkipReason → Bool
  | .wrongSource => ((raw.at? ["eventSource"]).getD .null).equals expected
  | .noNewImage => (imageAt raw "NewImage").isSome
  | .invalidNewImage =>
    (bytesAt raw "NewImage" "XML").isSome && hasText raw "Identifier" && hasText raw "BaseUrl"
  | .noChecksum => (bytesAt raw "NewImage" "XMLChecksum").isSome
  | .unchanged =>
    !((bytesAt raw "OldImage" "XMLChecksum").isSome
      && bytesAt raw "OldImage" "XMLChecksum" == bytesAt raw "NewImage" "XMLChecksum")

def reasons : List SkipReason :=
  [.wrongSource, .noNewImage, .invalidNewImage, .noChecksum, .unchanged]

/-- What the first failing of some checks asks for; the image is accepted if none fails. -/
def firstOf (raw expected : Value) (i : Image) (rs : List SkipReason) : Decision :=
  match rs.find? fun reason => !passes raw expected reason with
  | some reason => .skipped reason
  | none => .accepted i

/-- What the checks ask for. A record without a new image is never accepted. -/
def verdict (raw expected : Value) : Decision :=
  firstOf raw expected ((imageAt raw "NewImage").getD ⟨[]⟩) reasons

theorem firstOf_cons_pass {raw expected : Value} {reason : SkipReason}
    (h : passes raw expected reason = true) (i : Image) (rs : List SkipReason) :
    firstOf raw expected i (reason :: rs) = firstOf raw expected i rs := by
  simp [firstOf, h]

theorem firstOf_cons_fail {raw expected : Value} {reason : SkipReason}
    (h : passes raw expected reason = false) (i : Image) (rs : List SkipReason) :
    firstOf raw expected i (reason :: rs) = .skipped reason := by
  simp [firstOf, h]

/-- A check comes upon text outside ASCII: in the payload of the new image, in its checksum once the
required fields are there, or in the checksum of the old image once there is a new one. -/
def aborts (raw expected : Value) : Bool :=
  passes raw expected .wrongSource && passes raw expected .noNewImage &&
    (foreignAt raw "NewImage" "XML" || passes raw expected .invalidNewImage &&
      (foreignAt raw "NewImage" "XMLChecksum" || passes raw expected .noChecksum &&
        foreignAt raw "OldImage" "XMLChecksum"))

theorem raw?_of_imageAt {raw : Value} {key : String} {i : Image} (h : imageAt raw key = some i)
    (name : String) (tag : Tag) :
    i.raw? name tag = (raw.at? ["dynamodb", key, name, tag.letter]).filter (!·.isNull) := by
  rw [Image.raw?_eq_at?, Value.at?_below, show (raw.at? ["dynamodb", key]).bind Image.ofValue? =
    some i from h, Option.bind_some]

theorem binary?_of_imageAt {raw : Value} {key : String} {i : Image} (h : imageAt raw key = some i)
    (name : String) :
    (i.binary? name).result =
      if foreignAt raw key name then .error .notAscii else .ok (bytesAt raw key name) := by
  rw [Image.binary?_result, raw?_of_imageAt h]
  show _ = if (raw.at? ["dynamodb", key, name, Tag.binary.letter]).any Value.isForeign
    then _ else Except.ok ((raw.at? ["dynamodb", key, name, Tag.binary.letter]).bind Value.bytes?)
  cases raw.at? ["dynamodb", key, name, Tag.binary.letter] with
  | none => rfl
  | some v => cases v <;> rfl

theorem oldChecksum?_ofValue (raw : Value) :
    (ofValue raw).oldChecksum?.result =
      if foreignAt raw "OldImage" "XMLChecksum" then .error .notAscii
      else .ok (bytesAt raw "OldImage" "XMLChecksum") := by
  unfold oldChecksum?
  rw [show (ofValue raw).oldImage = imageAt raw "OldImage" from oldImage_ofValue raw]
  cases h : imageAt raw "OldImage" with
  | some i => exact binary?_of_imageAt h "XMLChecksum"
  | none =>
    unfold foreignAt bytesAt
    rw [Value.at?_below, show (raw.at? ["dynamodb", "OldImage"]).bind Image.ofValue? = none from h]
    rfl

theorem hasText_of_imageAt {raw : Value} {i : Image} (h : imageAt raw "NewImage" = some i)
    (name : String) : (i.raw? name .string).isSome = hasText raw name := by
  rw [raw?_of_imageAt h]
  unfold hasText
  show ((raw.at? ["dynamodb", "NewImage", name, "S"]).filter _).isSome = _
  cases raw.at? ["dynamodb", "NewImage", name, "S"] with
  | none => rfl
  | some v => cases v <;> rfl

theorem absentWith_of_imageAt {raw : Value} {i : Image} (h : imageAt raw "NewImage" = some i)
    (expected : Value) :
    i.absentWith (bytesAt raw "NewImage" "XML") = [] ↔
      passes raw expected .invalidNewImage = true := by
  unfold Image.absentWith passes
  rw [hasText_of_imageAt h, hasText_of_imageAt h]
  cases (bytesAt raw "NewImage" "XML").isSome <;> cases hasText raw "Identifier" <;>
    cases hasText raw "BaseUrl" <;> simp

theorem checkChange_ofValue (raw : Value) (i : Image) (sum : List UInt8) :
    ((ofValue raw).checkChange i sum).result =
      if foreignAt raw "OldImage" "XMLChecksum" then .error .notAscii
      else .ok (if bytesAt raw "OldImage" "XMLChecksum" = some sum then .skipped .unchanged
        else .accepted i) := by
  rw [checkChange_result, oldChecksum?_ofValue]
  split <;> rfl

theorem passes_unchanged {raw : Value} {sum : List UInt8}
    (h : bytesAt raw "NewImage" "XMLChecksum" = some sum) (expected : Value) :
    passes raw expected .unchanged = true ↔ bytesAt raw "OldImage" "XMLChecksum" ≠ some sum := by
  simp only [passes, h]
  cases bytesAt raw "OldImage" "XMLChecksum" <;> simp

theorem checkSum_ofValue {raw : Value} {i : Image} (hi : imageAt raw "NewImage" = some i)
    (expected : Value) :
    ((ofValue raw).checkSum i).result =
      if foreignAt raw "NewImage" "XMLChecksum" || passes raw expected .noChecksum &&
          foreignAt raw "OldImage" "XMLChecksum" then .error .notAscii
      else .ok (firstOf raw expected i [.noChecksum, .unchanged]) := by
  rw [checkSum_result, show i.checksum?.result = _ from binary?_of_imageAt hi "XMLChecksum"]
  cases foreignAt raw "NewImage" "XMLChecksum" with
  | true => rfl
  | false =>
    simp only [Bool.false_eq_true, if_false, Except.bind, Bool.false_or]
    cases hs : bytesAt raw "NewImage" "XMLChecksum" with
    | none =>
      have h3 : passes raw expected .noChecksum = false := by simp [passes, hs]
      simp [h3, firstOf_cons_fail h3]
    | some sum =>
      have h3 : passes raw expected .noChecksum = true := by simp [passes, hs]
      have h4 := passes_unchanged hs expected
      simp only [checkChange_ofValue, h3, Bool.true_and, firstOf_cons_pass h3]
      by_cases hb : bytesAt raw "OldImage" "XMLChecksum" = some sum
      · have h5 : passes raw expected .unchanged = false := by simpa [hb] using h4
        rw [if_pos hb, firstOf_cons_fail h5]
      · rw [if_neg hb, firstOf_cons_pass (h4.mpr hb)]; rfl

theorem checkImage_ofValue {raw : Value} {i : Image} (hi : imageAt raw "NewImage" = some i)
    (expected : Value) :
    ((ofValue raw).checkImage i).result =
      if foreignAt raw "NewImage" "XML" || passes raw expected .invalidNewImage &&
          (foreignAt raw "NewImage" "XMLChecksum" || passes raw expected .noChecksum &&
            foreignAt raw "OldImage" "XMLChecksum") then .error .notAscii
      else .ok (firstOf raw expected i [.invalidNewImage, .noChecksum, .unchanged]) := by
  rw [checkImage_result, show i.payload?.result = _ from binary?_of_imageAt hi "XML"]
  cases foreignAt raw "NewImage" "XML" with
  | true => rfl
  | false =>
    simp only [Bool.false_eq_true, if_false, Except.bind, absentWith_of_imageAt hi expected,
      checkSum_ofValue hi expected, Bool.false_or]
    cases h2 : passes raw expected .invalidNewImage with
    | false => simp [firstOf_cons_fail h2]
    | true => rw [firstOf_cons_pass h2]; rfl

/-- **The decision on a record**: a fault if a check comes upon text outside ASCII, and else that of
the first check that fails. -/
theorem decision_result (raw expected : Value) :
    ((ofValue raw).decision expected).result =
      if aborts raw expected then .error .notAscii else .ok (verdict raw expected) := by
  have hsource : (ofValue raw).source.equals expected = passes raw expected .wrongSource := by
    rw [source_ofValue]; rfl
  unfold decision aborts verdict reasons
  rw [hsource, show (ofValue raw).newImage = imageAt raw "NewImage" from newImage_ofValue raw]
  cases h0 : passes raw expected .wrongSource with
  | false => rw [firstOf_cons_fail h0]; rfl
  | true =>
    rw [firstOf_cons_pass h0]
    cases hi : imageAt raw "NewImage" with
    | none =>
      have h1 : passes raw expected .noNewImage = false := by simp [passes, hi]
      rw [firstOf_cons_fail h1, h1]; rfl
    | some i =>
      have h1 : passes raw expected .noNewImage = true := by simp [passes, hi]
      rw [firstOf_cons_pass h1, h1]
      exact checkImage_ofValue hi expected

theorem skipReason?_firstOf (raw expected : Value) (i : Image) (rs : List SkipReason) :
    (firstOf raw expected i rs).skipReason? =
      rs.find? fun reason => !passes raw expected reason := by
  unfold firstOf
  cases rs.find? fun reason => !passes raw expected reason <;> rfl

theorem newImage?_firstOf (raw expected : Value) (i : Image) (rs : List SkipReason) :
    (firstOf raw expected i rs).newImage? =
      if (firstOf raw expected i rs).skipReason? = none then some i else none := by
  unfold firstOf
  cases rs.find? fun reason => !passes raw expected reason <;> rfl

theorem mem_reasons (reason : SkipReason) : reason ∈ reasons := by
  cases reason <;> decide

theorem skipReason?_verdict_eq_none {raw expected : Value} :
    (verdict raw expected).skipReason? = none ↔ ∀ reason, passes raw expected reason = true := by
  rw [verdict, skipReason?_firstOf, List.find?_eq_none]
  constructor
  · intro h reason
    simpa using h reason (mem_reasons reason)
  · intro h reason _
    simp [h reason]

theorem newImage?_verdict (raw expected : Value) :
    (verdict raw expected).newImage? =
      if (verdict raw expected).skipReason? = none then imageAt raw "NewImage" else none := by
  by_cases h : (verdict raw expected).skipReason? = none
  · have h1 : (imageAt raw "NewImage").isSome = true := skipReason?_verdict_eq_none.mp h .noNewImage
    obtain ⟨i, hi⟩ := Option.isSome_iff_exists.mp h1
    rw [if_pos h]
    unfold verdict at h ⊢
    rw [newImage?_firstOf, if_pos h, hi]; rfl
  · rw [if_neg h]
    unfold verdict at h ⊢
    rw [newImage?_firstOf, if_neg h]

/-- **The filter.** A record of which no check reads text outside ASCII is accepted exactly if it
passes all checks, and then with its new image; else it is skipped for the first that fails. -/
theorem decision_first_failing (raw expected : Value) (h : aborts raw expected = false) (log : Log)
    (hlog : log.Keeps) :
    ∃ d, ((ofValue raw).decision expected log).1 = .ok d ∧
      (d.skipReason? = none ↔ ∀ reason, passes raw expected reason = true) ∧
      (∀ reason, d.skipReason? = some reason ↔ passes raw expected reason = false ∧
        ∃ before after, reasons = before ++ reason :: after ∧
          ∀ earlier ∈ before, passes raw expected earlier = true) ∧
      d.newImage? = if d.skipReason? = none then imageAt raw "NewImage" else none := by
  refine ⟨verdict raw expected, ?_, skipReason?_verdict_eq_none, fun reason => ?_,
    newImage?_verdict raw expected⟩
  · rw [(steady_decision _ expected).fst_eq hlog, decision_result, h]; rfl
  · rw [verdict, skipReason?_firstOf, List.find?_eq_some_iff_append]
    simp

/-- A record with the given texts under the tag of bytes: the payload and the checksum of the new
image, and the checksum of the old one. -/
def sample (payload newSum oldSum : String) : Value :=
  .ofFields
    [("eventSource", .text "aws:dynamodb"),
      ("dynamodb", .ofFields
        [("NewImage", .ofFields
          [("XML", .ofFields [("B", .text payload)]),
            ("XMLChecksum", .ofFields [("B", .text newSum)]),
            ("Identifier", .ofFields [("S", .text "oai:1")]),
            ("BaseUrl", .ofFields [("S", .text "https://a.example")])]),
        ("OldImage", .ofFields [("XMLChecksum", .ofFields [("B", .text oldSum)])])])]

/-- Two texts of one checksum are no change. -/
theorem decision_first_failing_same_sum :
    aborts (sample "PHgvPg==" "AR==" "AQ==") (.text "aws:dynamodb") = false ∧ Log.empty.Keeps ∧
      ∃ d, ((ofValue (sample "PHgvPg==" "AR==" "AQ==")).decision (.text "aws:dynamodb")
        Log.empty).1 = .ok d ∧ d.skipReason? = some .unchanged ∧ d.newImage?.isNone = true := by
  have h : aborts (sample "PHgvPg==" "AR==" "AQ==") (.text "aws:dynamodb") = false := by decide
  obtain ⟨d, hd, -, hs, hi⟩ := decision_first_failing _ _ h Log.empty Log.keeps_empty
  have hu : d.skipReason? = some .unchanged :=
    (hs .unchanged).mpr ⟨by decide, reasons.dropLast, [], by decide, by decide⟩
  refine ⟨h, Log.keeps_empty, d, hd, hu, ?_⟩
  rw [hi, hu]; rfl

end StreamRecord

end StreamRelay
