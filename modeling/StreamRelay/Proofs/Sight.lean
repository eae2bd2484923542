import StreamRelay.Proofs.Fidelity

/-!
# What the checks see of a record

A decision depends on seven observations of a record: whether it comes from the expected source,
whether it has a new image, what the payload, the checksum, the identifier and the base address of
the new image read as, and what the checksum of the old image reads as (`StreamRecord.sight`). Two
records that look alike get the same decision or the same fault, and if they are accepted, the same
messages (`decision_of_sight`, `messagesTo_of_sight`). Records look alike if they differ only in what
no check reads, or in how the bytes that are read are spelled (`Resembles.sight_eq`).
-/

namespace StreamRelay

/-! ### Spellings of bytes -/

/-- A value spells bytes: it is the bytes, fixed or not, or a text that decodes to them. -/
inductive Value.Spells (bs : List UInt8) : Value → Prop where
  | bytes : Value.Spells bs (.bytes bs)
  | buffer : Value.Spells bs (.buffer bs)
  | text {s : String} (h : Base64.decode s.toList = .ok bs) : Value.Spells bs (.text s)

theorem Value.Spells.reads {bs : List UInt8} {v : Value} (h : v.Spells bs) :
    v.isForeign = false ∧ v.bytes? = some bs := by
  cases h with
  | bytes => exact ⟨rfl, rfl⟩
  | buffer => exact ⟨rfl, rfl⟩
  | @text s h =>
    have hforeign : (Value.text s).isForeign = false := by
      simp only [isForeign, Base64.ascii_of_decode h, Bool.not_true]
    refine ⟨hforeign, ?_⟩
    rw [bytes?, hforeign, h]
    rfl

/-- What a reading of bytes gives: the bytes, or null where there are none. -/
def Value.ofReading (bs : Option (List UInt8)) : Value := (bs.map Value.bytes).getD .null

theorem Value.ofReading_inj {x y : Except Fault (Option (List UInt8))}
    (h : x.map Value.ofReading = y.map Value.ofReading) : x = y := by
  rcases x with fault | _ | bs <;> rcases y with fault' | _ | bs' <;> cases h <;> rfl

/-! ### Images -/

namespace Image

open Value

/-- Two images read alike where they are read. -/
structure ReadsAs (i j : Image) : Prop where
  payload : i.payload?.result = j.payload?.result
  checksum : i.checksum?.result = j.checksum?.result
  identifier : i.raw? "Identifier" .string = j.raw? "Identifier" .string
  baseUrl : i.raw? "BaseUrl" .string = j.raw? "BaseUrl" .string

variable {i j : Image}

theorem ReadsAs.contentWith_eq (h : i.ReadsAs j) : i.contentWith = j.contentWith := by
  funext payload
  rw [contentWith, contentWith, h.identifier, h.baseUrl]

theorem ReadsAs.absentWith_eq (h : i.ReadsAs j) : i.absentWith = j.absentWith := by
  funext payload
  rw [absentWith, absentWith, h.identifier, h.baseUrl]

theorem ReadsAs.messagesTo_eq (h : i.ReadsAs j) (qs : List Value) :
    (i.messagesTo qs).result = (j.messagesTo qs).result := by
  rw [messagesTo_result, messagesTo_result, h.payload, h.contentWith_eq]

theorem raw?_ne_null (i : Image) (name : String) (tag : Tag) : i.raw? name tag ≠ some .null := by
  rw [raw?_eq_at?]
  intro h
  exact absurd (Option.filter_eq_some_iff.mp h).2 (by decide)

theorem lookup_binary_result (i : Image) (name : String) :
    (lookup (some i) name "B").result = (i.binary? name).result.map Value.ofReading := by
  show (i.get? name .binary >>= fun v => pure (v.getD .null)).result = _
  rw [Logged.result_bind (i.steady_get? name .binary) fun _ => Logged.steady_pure _,
    get?_binary_result]
  cases (i.binary? name).result <;> rfl

theorem lookup_string_result (i : Image) (name : String) :
    (lookup (some i) name "S").result = .ok ((i.raw? name .string).getD .null) := rfl

theorem readsAs_of_lookup
    (hpayload : (lookup (some i) "XML" "B").result = (lookup (some j) "XML" "B").result)
    (hchecksum : (lookup (some i) "XMLChecksum" "B").result =
      (lookup (some j) "XMLChecksum" "B").result)
    (hidentifier : (lookup (some i) "Identifier" "S").result =
      (lookup (some j) "Identifier" "S").result)
    (hbase : (lookup (some i) "BaseUrl" "S").result = (lookup (some j) "BaseUrl" "S").result) :
    i.ReadsAs j := by
  rw [lookup_binary_result, lookup_binary_result] at hpayload hchecksum
  rw [lookup_string_result, lookup_string_result] at hidentifier hbase
  have hraw {name : String}
      (h : (i.raw? name .string).getD .null = (j.raw? name .string).getD .null) :
      i.raw? name .string = j.raw? name .string := by
    have hi := i.raw?_ne_null name .string
    have hj := j.raw?_ne_null name .string
    cases hv : i.raw? name .string <;> cases hw : j.raw? name .string <;> simp_all
  exact ⟨ofReading_inj hpayload, ofReading_inj hchecksum, hraw (Except.ok.inj hidentifier),
    hraw (Except.ok.inj hbase)⟩

end Image

/-! ### Sights -/

/-- What is seen of a record. A reading of an image that is not there gives null, like one of a value
that is not there. -/
structure Sight where
  fromExpected : Bool
  hasNewImage : Bool
  payload : Except Fault Value
  checksum : Except Fault Value
  identifier : Except Fault Value
  baseUrl : Except Fault Value
  oldChecksum : Except Fault Value

namespace StreamRecord

/-- What is seen of a record where records of a source are expected. -/
def sight (expected : Value) (r : StreamRecord) : Sight where
  fromExpected := r.source.equals expected
  hasNewImage := r.newImage.isSome
  payload := (Image.lookup r.newImage "XML" "B").result
  checksum := (Image.lookup r.newImage "XMLChecksum" "B").result
  identifier := (Image.lookup r.newImage "Identifier" "S").result
  baseUrl := (Image.lookup r.newImage "BaseUrl" "S").result
  oldChecksum := (Image.lookup r.oldImage "XMLChecksum" "B").result

theorem lookup_oldImage_result (r : StreamRecord) :
    (Image.lookup r.oldImage "XMLChecksum" "B").result =
      r.oldChecksum?.result.map Value.ofReading := by
  unfold oldChecksum?
  cases r.oldImage with
  | none => rfl
  | some old => exact old.lookup_binary_result "XMLChecksum"

variable {r r' : StreamRecord} {i i' : Image}

theorem checkChange_reason (hold : r.oldChecksum?.result = r'.oldChecksum?.result)
    (sum : List UInt8) :
    (r.checkChange i sum).result.map Decision.skipReason? =
      (r'.checkChange i' sum).result.map Decision.skipReason? := by
  rw [checkChange_result, checkChange_result, hold]
  cases r'.oldChecksum?.result with
  | error fault => rfl
  | ok before =>
    simp only [Except.bind, Except.map]
    split <;> rfl

theorem checkSum_reason (hold : r.oldChecksum?.result = r'.oldChecksum?.result)
    (himage : i.ReadsAs i') :
    (r.checkSum i).result.map Decision.skipReason? =
      (r'.checkSum i').result.map Decision.skipReason? := by
  rw [checkSum_result, checkSum_result, himage.checksum]
  rcases i'.checksum?.result with fault | _ | sum
  · rfl
  · rfl
  · exact checkChange_reason hold sum

theorem checkImage_reason (hold : r.oldChecksum?.result = r'.oldChecksum?.result)
    (himage : i.ReadsAs i') :
    (r.checkImage i).result.map Decision.skipReason? =
      (r'.checkImage i').result.map Decision.skipReason? := by
  rw [checkImage_result, checkImage_result, himage.payload, himage.absentWith_eq]
  cases i'.payload?.result with
  | error fault => rfl
  | ok payload =>
    simp only [Except.bind]
    split
    · exact checkSum_reason hold himage
    · rfl

theorem readsAs_of_sight {expected : Value} (h : r.sight expected = r'.sight expected)
    (hi : r.newImage = some i) (hi' : r'.newImage = some i') : i.ReadsAs i' := by
  simp only [sight, hi, hi', Sight.mk.injEq] at h
  obtain ⟨-, -, hpayload, hchecksum, hidentifier, hbase, -⟩ := h
  exact Image.readsAs_of_lookup hpayload hchecksum hidentifier hbase

/-- **Records that look alike** get the same decision, up to the image that is accepted, or the same
fault. -/
theorem decision_of_sight {expected : Value} (h : r.sight expected = r'.sight expected) :
    (r.decision expected).result.map Decision.skipReason? =
      (r'.decision expected).result.map Decision.skipReason? := by
  have hold : r.oldChecksum?.result = r'.oldChecksum?.result := by
    refine Value.ofReading_inj ?_
    rw [← lookup_oldImage_result, ← lookup_oldImage_result]
    exact congrArg Sight.oldChecksum h
  have hsource : r.source.equals expected = r'.source.equals expected :=
    congrArg Sight.fromExpected h
  have himage : r.newImage.isSome = r'.newImage.isSome := congrArg Sight.hasNewImage h
  unfold decision
  rw [hsource]
  split
  · cases hi : r.newImage with
    | none =>
      rw [hi] at himage
      have hi' : r'.newImage = none := by simpa using himage.symm
      rw [hi']
    | some i =>
      rw [hi] at himage
      obtain ⟨i', hi'⟩ := Option.isSome_iff_exists.mp himage.symm
      rw [hi']
      exact checkImage_reason hold (readsAs_of_sight h hi hi')
  · rfl

theorem newImage_of_accepted {raw expected : Value}
    (h : ((ofValue raw).decision expected).result = .ok (.accepted i)) :
    (ofValue raw).newImage = some i := by
  have hverdict := decision_result raw expected
  rw [not_aborts_of_ok h, h] at hverdict
  rw [newImage_ofValue]
  exact (passes_of_verdict (Except.ok.inj hverdict).symm).2

/-- Records that look alike and are accepted have the same messages, which can all be requested. -/
theorem messagesTo_of_sight {raw raw' expected : Value}
    (h : (ofValue raw).sight expected = (ofValue raw').sight expected)
    (hi : ((ofValue raw).decision expected).result = .ok (.accepted i))
    (hi' : ((ofValue raw').decision expected).result = .ok (.accepted i')) (qs : List Value) :
    ∃ (messages : List Message) (requests : List Request), (i.messagesTo qs).result = .ok messages ∧
      (i'.messagesTo qs).result = .ok messages ∧
      messages.map Message.request = requests.map .ok := by
  obtain ⟨content, hpayload, hmessages⟩ := messagesTo_of_accepted hi qs
  obtain ⟨bs, hbs⟩ := Option.isSome_iff_exists.mp hpayload
  have hreads := readsAs_of_sight h (newImage_of_accepted hi) (newImage_of_accepted hi')
  refine ⟨_, qs.map (content.request bs), hmessages, ?_, ?_⟩
  · rw [← hreads.messagesTo_eq]
    exact hmessages
  · rw [List.map_map, List.map_map]
    exact List.map_congr_left fun queue _ => Content.request_message hbs queue

/-! ### Records that resemble each other -/

/-- Two values, each of which may be missing, are the same or spell the same bytes. -/
def SameBytes (v w : Option Value) : Prop :=
  v = w ∨ ∃ bs a b, v = some a ∧ w = some b ∧ a.Spells bs ∧ b.Spells bs

theorem SameBytes.reads {v w : Option Value} (h : SameBytes v w) :
    v.any Value.isForeign = w.any Value.isForeign ∧ v.bind Value.bytes? = w.bind Value.bytes? := by
  obtain rfl | ⟨bs, a, b, rfl, rfl, ha, hb⟩ := h
  · exact ⟨rfl, rfl⟩
  · simp only [Option.any_some, Option.bind_some, ha.reads, hb.reads, and_self]

/-- Two records differ at most in what no check reads and in how the bytes are spelled that are
read. -/
structure Resembles (raw raw' : Value) : Prop where
  source : (raw.at? ["eventSource"]).getD .null = (raw'.at? ["eventSource"]).getD .null
  newImage : (imageAt raw "NewImage").isSome = (imageAt raw' "NewImage").isSome
  payload : SameBytes (raw.at? ["dynamodb", "NewImage", "XML", "B"])
    (raw'.at? ["dynamodb", "NewImage", "XML", "B"])
  checksum : SameBytes (raw.at? ["dynamodb", "NewImage", "XMLChecksum", "B"])
    (raw'.at? ["dynamodb", "NewImage", "XMLChecksum", "B"])
  identifier : raw.at? ["dynamodb", "NewImage", "Identifier", "S"] =
    raw'.at? ["dynamodb", "NewImage", "Identifier", "S"]
  baseUrl : raw.at? ["dynamodb", "NewImage", "BaseUrl", "S"] =
    raw'.at? ["dynamodb", "NewImage", "BaseUrl", "S"]
  oldChecksum : SameBytes (raw.at? ["dynamodb", "OldImage", "XMLChecksum", "B"])
    (raw'.at? ["dynamodb", "OldImage", "XMLChecksum", "B"])

theorem lookup_binary_at (raw : Value) (key name : String) :
    (Image.lookup (imageAt raw key) name "B").result =
      if foreignAt raw key name then .error .notAscii
      else .ok (Value.ofReading (bytesAt raw key name)) := by
  cases hi : imageAt raw key with
  | none =>
    unfold foreignAt bytesAt
    rw [Value.at?_below, show (raw.at? ["dynamodb", key]).bind Image.ofValue? = none from hi]
    rfl
  | some i =>
    rw [Image.lookup_binary_result, binary?_of_imageAt hi]
    split <;> rfl

theorem lookup_string_at (raw : Value) (key name : String) :
    (Image.lookup (imageAt raw key) name "S").result =
      .ok (((raw.at? ["dynamodb", key, name, "S"]).filter (!·.isNull)).getD .null) := by
  cases hi : imageAt raw key with
  | none =>
    rw [Value.at?_below, show (raw.at? ["dynamodb", key]).bind Image.ofValue? = none from hi]
    rfl
  | some i =>
    rw [Image.lookup_string_result, raw?_of_imageAt hi]
    rfl

theorem lookup_binary_of_sameBytes {raw raw' : Value} {key name : String}
    (h : SameBytes (raw.at? ["dynamodb", key, name, "B"]) (raw'.at? ["dynamodb", key, name, "B"])) :
    (Image.lookup (imageAt raw key) name "B").result =
      (Image.lookup (imageAt raw' key) name "B").result := by
  rw [lookup_binary_at, lookup_binary_at, foreignAt, foreignAt, bytesAt, bytesAt, h.reads.1,
    h.reads.2]

/-- Records that resemble each other look alike. -/
theorem Resembles.sight_eq {raw raw' : Value} (h : Resembles raw raw') (expected : Value) :
    (ofValue raw).sight expected = (ofValue raw').sight expected := by
  have hnew (raw : Value) : (ofValue raw).newImage = imageAt raw "NewImage" := newImage_ofValue raw
  have hold (raw : Value) : (ofValue raw).oldImage = imageAt raw "OldImage" := oldImage_ofValue raw
  unfold sight
  rw [hnew, hnew, hold, hold, source_ofValue, source_ofValue, h.source, h.newImage,
    lookup_binary_of_sameBytes h.payload, lookup_binary_of_sameBytes h.checksum,
    lookup_binary_of_sameBytes h.oldChecksum, lookup_string_at raw, lookup_string_at raw,
    lookup_string_at raw', lookup_string_at raw', h.identifier, h.baseUrl]

/-- **A decision depends on what is seen of a record.** Records that resemble each other look alike.
Records that look alike are both accepted, or skipped for the same reason, or end in the same fault;
and if they are accepted, they have the same messages for every list of queues, each of which can be
requested. -/
theorem decision_depends_on_sight (expected raw raw' : Value) :
    (Resembles raw raw' → (ofValue raw).sight expected = (ofValue raw').sight expected) ∧
      ((ofValue raw).sight expected = (ofValue raw').sight expected →
        ∀ log log' : Log, log.Keeps → log'.Keeps →
          ((ofValue raw).decision expected log).1.map Decision.skipReason? =
              ((ofValue raw').decision expected log').1.map Decision.skipReason? ∧
            ∀ i i', ((ofValue raw).decision expected log).1 = .ok (.accepted i) →
              ((ofValue raw').decision expected log').1 = .ok (.accepted i') →
              ∀ queues qs, queues.members? = some qs →
                ∃ (messages : List Message) (requests : List Request),
                (Image.messagesFor queues (some i) log).1 = .ok messages ∧
                  (Image.messagesFor queues (some i') log').1 = .ok messages ∧
                  messages.map Message.request = requests.map .ok) := by
  refine ⟨fun h => h.sight_eq expected, fun h log log' hlog hlog' => ?_⟩
  rw [(steady_decision _ expected).fst_eq hlog, (steady_decision _ expected).fst_eq hlog']
  refine ⟨decision_of_sight h, fun i i' hi hi' queues qs hqueues => ?_⟩
  rw [Image.messagesFor_some hqueues, Image.messagesFor_some hqueues,
    (i.steady_messagesTo qs).fst_eq hlog, (i'.steady_messagesTo qs).fst_eq hlog']
  exact messagesTo_of_sight h hi hi' qs

/-- The record of the sample with its bytes spelled in other ways, among values that no check
reads. -/
def disguised : Value :=
  .ofFields
    [("eventID", .text "7"), ("eventName", .text "MODIFY"), ("eventSource", .text "aws:dynamodb"),
      ("dynamodb", .ofFields
        [("NewImage", .ofFields
          [("XML", .ofFields [("S", .text "x"), ("B", .bytes [60, 120, 47, 62])]),
            ("XMLChecksum", .ofFields [("B", .buffer [1])]),
            ("Identifier", .ofFields [("S", .text "oai:1"), ("N", .text "1")]),
            ("BaseUrl", .ofFields [("S", .text "https://a.example")]),
            ("Title", .null)]),
        ("OldImage", .ofFields
          [("XMLChecksum", .ofFields [("B", .text "Ah==")]),
            ("XML", .ofFields [("B", .text "é")])])])]

/-- A record and its disguise have the same message. -/
theorem decision_depends_on_sight_disguised :
    Resembles (sample "PHgvPg==" "AQ==" "Ag==") disguised ∧ Log.empty.Keeps ∧
      ∃ i i', ((ofValue (sample "PHgvPg==" "AQ==" "Ag==")).decision (.text "aws:dynamodb")
          Log.empty).1 = .ok (.accepted i) ∧
        ((ofValue disguised).decision (.text "aws:dynamodb") Log.empty).1 = .ok (.accepted i') ∧
        ∃ (messages : List Message) (requests : List Request),
          (Image.messagesFor (.list [.text "q"]) (some i) Log.empty).1 = .ok messages ∧
            (Image.messagesFor (.list [.text "q"]) (some i') Log.empty).1 = .ok messages ∧
            messages.map Message.request = requests.map .ok := by
  have h : Resembles (sample "PHgvPg==" "AQ==" "Ag==") disguised := by
    have hpayload : Base64.decode "PHgvPg==".toList = .ok [60, 120, 47, 62] := rfl
    have hchecksum : Base64.decode "AQ==".toList = .ok [1] := rfl
    exact ⟨rfl, rfl, .inr ⟨_, _, _, rfl, rfl, .text hpayload, .bytes⟩,
      .inr ⟨_, _, _, rfl, rfl, .text hchecksum, .buffer⟩, rfl, rfl,
      .inr ⟨[2], _, _, rfl, rfl, .text rfl, .text rfl⟩⟩
  obtain ⟨i, hi⟩ : ∃ i, ((ofValue (sample "PHgvPg==" "AQ==" "Ag==")).decision
      (.text "aws:dynamodb") Log.empty).1 = .ok (.accepted i) := ⟨_, rfl⟩
  obtain ⟨i', hi'⟩ : ∃ i', ((ofValue disguised).decision (.text "aws:dynamodb") Log.empty).1 =
    .ok (.accepted i') := ⟨_, rfl⟩
  obtain ⟨hsight, hmessages⟩ := decision_depends_on_sight (.text "aws:dynamodb")
    (sample "PHgvPg==" "AQ==" "Ag==") disguised
  obtain ⟨-, hsame⟩ := hmessages (hsight h) Log.empty Log.empty Log.keeps_empty Log.keeps_empty
  exact ⟨h, Log.keeps_empty, i, i', hi, hi', hsame i i' hi hi' _ _ rfl⟩

end StreamRecord

end StreamRelay
