import StreamRelay.Proofs.Spelling
import StreamRelay.Proofs.Writers

/-!
# What requests carry

From an accepted record to the requests for its queues, nothing is lost or altered: the bytes that
the decision found under the payload are found again when the messages are built, and the body of
each request spells just these bytes (`readBinary_encode`). A payload that came as canonical base64
text is the body as it is (`body_of_isCanonical`).
-/

namespace StreamRelay

/-! ### Bodies -/

theorem bytes?_text_eq_some_iff {s : String} {bs : List UInt8} :
    (Value.text s).bytes? = some bs ↔ Base64.decode s.toList = .ok bs := by
  constructor
  · intro h
    simp only [Value.bytes?] at h
    split at h
    · cases h
    · cases hdecode : Base64.decode s.toList with
      | error o => rw [hdecode] at h; cases h
      | ok cs => rw [hdecode] at h; exact congrArg Except.ok (Option.some.inj h)
  · intro h
    simp only [Value.bytes?, Value.isForeign, Base64.ascii_of_decode h, h]
    rfl

theorem readBinary_encode (name : String) (bs : List UInt8) :
    readBinary name (.text (String.ofList (Base64.encode bs))) = .ok bs := by
  rw [readBinary_eq_ok_iff, bytes?_text_eq_some_iff, String.toList_ofList]
  exact Base64.decode_encode bs

/-- Canonical text is the text of the bytes it spells. -/
theorem body_of_isCanonical {s : String} {bs : List UInt8}
    (hbytes : (Value.text s).bytes? = some bs) (hs : Base64.isCanonical s.toList = true) :
    String.ofList (Base64.encode bs) = s := by
  have hdecode := bytes?_text_eq_some_iff.mp hbytes
  rw [(Base64.encode_eq_iff_isCanonical hdecode).mpr hs, String.ofList_toList]

/-- The request carries the given bytes, with the identifier and the base address as its only
attributes, and without delay. -/
structure Request.Carries (r : Request) (bs : List UInt8) (identifier baseUrl : Value) : Prop where
  body : ∀ name, readBinary name (.text r.messageBody) = .ok bs
  attributes : r.attributes =
    [("Identifier", ⟨identifier, "String"⟩), ("BaseUrl", ⟨baseUrl, "String"⟩)]
  delaySeconds : r.delaySeconds = 0

namespace Content

/-- The request for a queue that takes content with the given payload. -/
def request (c : Content) (bs : List UInt8) (queue : Value) : Request :=
  Message.request.carrying (c.message queue) bs

theorem request_message {c : Content} {bs : List UInt8} (h : c.payload = some bs) (queue : Value) :
    (c.message queue).request = .ok (c.request bs queue) := by
  simp only [Message.request, message, h]
  rfl

theorem request_carries (c : Content) (bs : List UInt8) (queue : Value) :
    (c.request bs queue).Carries bs c.identifier c.baseUrl where
  body name := readBinary_encode name bs
  attributes := rfl
  delaySeconds := rfl

end Content

namespace Image

variable {i : Image}

/-! ### Images -/

theorem binary?_of_bytes? {name : String} {v : Value} {bs : List UInt8}
    (hraw : i.raw? name .binary = some v) (hbytes : v.bytes? = some bs) (log : Log) :
    i.binary? name log = (.ok (some bs), log) := by
  simp only [binary?, hraw, readBinary_of_bytes? hbytes]
  rfl

theorem content_of_payload {bs : List UInt8} {log : Log}
    (h : i.payload? log = (.ok (some bs), log)) :
    i.content log = (.ok (i.contentWith (some bs)), log) := by
  rw [content, except_bind_at, h]
  rfl

theorem messagesTo_of_payload {bs : List UInt8} {log : Log}
    (h : i.payload? log = (.ok (some bs), log)) (qs : List Value) :
    i.messagesTo qs log = (.ok (qs.map (i.contentWith (some bs)).message), log) := by
  rw [messagesTo, except_bind_at, content_of_payload h]
  rfl

theorem messagesFor_some {queues : Value} {qs : List Value} (hq : queues.members? = some qs) :
    messagesFor queues (some i) = i.messagesTo qs := by
  simp only [messagesFor, messagesTo, Value.items?_of_members? hq]

end Image

namespace StreamRecord

/-! ### Records -/

/-- **What an accepted record spells.** The record is accepted with its new image; its payload
spells bytes, and its identifier and base address are there. -/
theorem spells_of_accepts {raw expected : Value} {i : Image} {log : Log}
    (h : ((ofValue raw).decision expected log).1 = .ok (.accepted i)) :
    imageAt raw "NewImage" = some i ∧
      (∃ v bs, i.raw? "XML" .binary = some v ∧ v.bytes? = some bs) ∧
      (i.raw? "Identifier" .string).isSome = true ∧ (i.raw? "BaseUrl" .string).isSome = true := by
  have hresult := ((ofValue raw).decision_core expected).agrees h Log.keeps_empty
  have ha : aborts raw expected = false := not_aborts_of_ok hresult
  rw [show ((ofValue raw).decision expected Log.empty).1 = _ from decision_result raw expected,
    ha] at hresult
  obtain ⟨hpasses, hi⟩ := passes_of_verdict (Except.ok.inj hresult)
  have hfields := hpasses .invalidNewImage
  simp only [passes, Bool.and_eq_true] at hfields
  obtain ⟨⟨hxml, hidentifier⟩, hbase⟩ := hfields
  refine ⟨hi, ?_, (hasText_of_imageAt hi _).trans hidentifier, (hasText_of_imageAt hi _).trans hbase⟩
  obtain ⟨bs, hbytes⟩ := Option.isSome_iff_exists.mp hxml
  obtain ⟨v, hv, hbs⟩ := Option.bind_eq_some_iff.mp hbytes
  refine ⟨v, bs, ?_, hbs⟩
  have hnull : v.isNull = false := by cases v <;> first | rfl | cases hbs
  rw [raw?_of_imageAt hi, show raw.at? ["dynamodb", "NewImage", "XML", Tag.binary.letter] = some v
    from hv, Option.filter_some, hnull]
  rfl

/-- **Fidelity from records to requests.** An accepted record gives one message for each queue, and
each of these one request for its queue, whose body reads as the bytes that the payload of the new
image reads as, and which has the image's identifier and base address as its only attributes; a
payload that is canonical text is the body itself. The logs may refuse lines. -/
theorem requests_of_accepted {raw expected queues : Value} {i : Image} {qs : List Value} {log : Log}
    (h : ((ofValue raw).decision expected log).1 = .ok (.accepted i))
    (hqueues : queues.members? = some qs) (log' : Log) :
    ∃ bs identifier baseUrl, imageAt raw "NewImage" = some i ∧
      i.get? "XML" .binary log' = (.ok (some (.bytes bs)), log') ∧
      i.get? "Identifier" .string log' = (.ok (some identifier), log') ∧
      i.get? "BaseUrl" .string log' = (.ok (some baseUrl), log') ∧
      ∃ (messages : List Message) (requests : List Request),
        Image.messagesFor queues (some i) log' = (.ok messages, log') ∧
        i.messagesTo qs log' = (.ok messages, log') ∧
        messages.map Message.request = requests.map .ok ∧
        requests.map Request.queueUrl = qs ∧
        (∀ r ∈ requests, r.Carries bs identifier baseUrl) ∧
        ∀ s, raw.at? ["dynamodb", "NewImage", "XML", "B"] = some (.text s) →
          Base64.isCanonical s.toList = true → ∀ r ∈ requests, r.messageBody = s := by
  obtain ⟨hi, ⟨v, bs, hv, hbytes⟩, hidentifier, hbase⟩ := spells_of_accepts h
  obtain ⟨identifier, hidentifier⟩ := Option.isSome_iff_exists.mp hidentifier
  obtain ⟨baseUrl, hbase⟩ := Option.isSome_iff_exists.mp hbase
  have hpayload : i.payload? log' = (.ok (some bs), log') := Image.binary?_of_bytes? hv hbytes log'
  have hmessages := Image.messagesTo_of_payload hpayload qs
  have hcontent : i.contentWith (some bs) = ⟨some bs, identifier, baseUrl⟩ := by
    simp only [Image.contentWith, hidentifier, hbase, Option.getD_some]
  rw [hcontent] at hmessages
  refine ⟨bs, identifier, baseUrl, hi, ?_, by rw [← hidentifier]; rfl, by rw [← hbase]; rfl, _,
    qs.map (Content.request ⟨some bs, identifier, baseUrl⟩ bs),
    (congrFun (Image.messagesFor_some hqueues) log').trans hmessages, hmessages, ?_, ?_, ?_, ?_⟩
  · rw [Image.get?, except_bind_at, show i.binary? "XML" log' = _ from hpayload]
    rfl
  · rw [List.map_map, List.map_map]
    exact List.map_congr_left fun queue _ => Content.request_message rfl queue
  · rw [List.map_map]
    exact List.map_id qs
  · intro r hr
    obtain ⟨queue, -, rfl⟩ := List.mem_map.mp hr
    exact Content.request_carries _ bs queue
  · intro s hs hcanonical r hr
    obtain ⟨queue, -, rfl⟩ := List.mem_map.mp hr
    have hv' : v = .text s := by
      rw [raw?_of_imageAt hi, show raw.at? ["dynamodb", "NewImage", "XML", Tag.binary.letter] =
        some (.text s) from hs] at hv
      exact (Option.some.inj hv).symm
    rw [hv'] at hbytes
    exact body_of_isCanonical hbytes hcanonical

/-- A payload in canonical text is requested as it came. -/
theorem requests_of_accepted_canonical :
    ∃ i, ((ofValue (sample "PHgvPg==" "AQ==" "Ag==")).decision (.text "aws:dynamodb")
        Log.empty).1 = .ok (.accepted i) ∧
      (Value.tuple [.text "q1", .text "q2"]).members? = some [.text "q1", .text "q2"] ∧
      ∃ requests : List Request, requests.map Request.queueUrl = [.text "q1", .text "q2"] ∧
        ∀ r ∈ requests, r.messageBody = "PHgvPg==" := by
  obtain ⟨i, hi⟩ : ∃ i, ((ofValue (sample "PHgvPg==" "AQ==" "Ag==")).decision
      (.text "aws:dynamodb") Log.empty).1 = .ok (.accepted i) := ⟨_, rfl⟩
  have hqueues : (Value.tuple [.text "q1", .text "q2"]).members? = some [.text "q1", .text "q2"] :=
    rfl
  obtain ⟨_, _, _, -, -, -, -, _, requests, -, -, -, hto, -, hbody⟩ :=
    requests_of_accepted hi hqueues Log.empty
  exact ⟨i, hi, hqueues, requests, hto, hbody "PHgvPg==" rfl (by decide)⟩

end StreamRecord

end StreamRelay
