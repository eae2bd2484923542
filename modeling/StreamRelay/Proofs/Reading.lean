import StreamRelay.Message
import StreamRelay.Proofs.Steady

/-!
# What is read of a record

The value at a path of dictionary keys, and what a value spells when it is read as bytes. Reading an
image gives the bytes at its path, or a fault where text outside ASCII stands there
(`binary?_result`); the images of a record, and so all that is read of them, are at paths of the
value that holds it (`newImage_ofValue`, `Value.at?_below`).
-/

namespace StreamRelay

namespace Value

/-- The value at the end of a path of keys, each the key of a dictionary. -/
def at? : List String → Value → Option Value
  | [], v => some v
  | key :: path, v => (v.entries?.bind (lookup? key)).bind (at? path)

def isNull : Value → Bool
  | null => true
  | _ => false

/-- The value is a text with a character outside ASCII. -/
def isForeign : Value → Bool
  | text s => !s.toList.all fun c => c.toNat < 128
  | _ => false

/-- The bytes that a value spells: those it has, or those of which it is the base64 text. -/
def bytes? : Value → Option (List UInt8)
  | bytes bs => some bs
  | buffer bs => some bs
  | text s => if (text s).isForeign then none else (Base64.decode s.toList).toOption
  | _ => none

def ofFields (fs : List (String × Value)) : Value := dict (fs.map fun f => (text f.1, f.2))

theorem at?_append (q : List String) :
    ∀ (p : List String) (v : Value), at? (p ++ q) v = (at? p v).bind (at? q)
  | [], v => rfl
  | key :: p, v => by
    simp only [List.cons_append, at?]
    cases v.entries?.bind (lookup? key) with
    | none => rfl
    | some w => simp only [Option.bind_some]; exact at?_append q p w

end Value

/-! ### Binary values -/

theorem Value.isForeign_text_iff {s : String} :
    (text s).isForeign = true ↔ ∃ c ∈ s.toList, 128 ≤ c.toNat := by
  simp [isForeign]

theorem readBinary_of_isForeign {v : Value} (h : v.isForeign = true) (name : String) :
    readBinary name v = .error .notAscii := by
  cases v with
  | text s =>
    simp only [Value.isForeign, Bool.not_eq_true'] at h
    simp only [readBinary, h]
    rfl
  | _ => simp [Value.isForeign] at h

theorem readBinary_of_not_isForeign {s : String} (h : (Value.text s).isForeign = false)
    (name : String) : readBinary name (.text s) =
      (Base64.decode s.toList).mapError fun o => .unreadableBinary name o.text := by
  simp only [Value.isForeign, Bool.not_eq_false'] at h
  simp only [readBinary, h, if_true]

theorem readBinary_of_bytes? {v : Value} {bs : List UInt8} (h : v.bytes? = some bs)
    (name : String) : readBinary name v = .ok bs := by
  cases v with
  | bytes cs => exact congrArg Except.ok (Option.some.inj h)
  | buffer cs => exact congrArg Except.ok (Option.some.inj h)
  | text s =>
    simp only [Value.bytes?] at h
    split at h
    · simp at h
    · rename_i hf
      rw [readBinary_of_not_isForeign (by simpa using hf)]
      cases hd : Base64.decode s.toList <;> rw [hd] at h <;> simp [Except.toOption] at h
      rw [h]; rfl
  | _ => simp [Value.bytes?] at h

theorem readBinary_of_bytes?_none {v : Value} (hf : v.isForeign = false) (h : v.bytes? = none)
    (name : String) : ∃ reason, readBinary name v = .error (.unreadableBinary name reason) := by
  cases v with
  | bytes cs => simp [Value.bytes?] at h
  | buffer cs => simp [Value.bytes?] at h
  | text s =>
    rw [readBinary_of_not_isForeign hf]
    simp only [Value.bytes?, hf] at h
    cases hd : Base64.decode s.toList with
    | error o => exact ⟨o.text, rfl⟩
    | ok bs => rw [hd] at h; simp [Except.toOption] at h
  | _ => exact ⟨_, rfl⟩

theorem readBinary_eq_ok_iff {name : String} {v : Value} {bs : List UInt8} :
    readBinary name v = .ok bs ↔ v.bytes? = some bs := by
  refine ⟨fun h => ?_, fun h => readBinary_of_bytes? h name⟩
  cases hbytes : v.bytes? with
  | some bs' =>
    rw [readBinary_of_bytes? hbytes] at h
    rw [Except.ok.inj h]
  | none =>
    cases hf : v.isForeign with
    | true => rw [readBinary_of_isForeign hf] at h; cases h
    | false =>
      obtain ⟨reason, hreason⟩ := readBinary_of_bytes?_none hf hbytes name
      rw [hreason] at h; cases h

namespace Image

theorem steady_binary? (i : Image) (name : String) : (i.binary? name).Steady := by
  unfold binary?
  split
  · exact Logged.steady_pure _
  · split
    · exact Logged.steady_pure _
    · exact (Logged.steady_write _ _ _ _).bind fun _ => Logged.steady_pure _
    · exact Logged.steady_throw _

/-- **Reading bytes**: the bytes that the raw value spells, none if it spells none, and a fault if
it is text outside ASCII. -/
theorem binary?_result (i : Image) (name : String) :
    (i.binary? name).result =
      if (i.raw? name .binary).any Value.isForeign then .error .notAscii
      else .ok ((i.raw? name .binary).bind Value.bytes?) := by
  unfold binary?
  cases hr : i.raw? name .binary with
  | none => rfl
  | some raw =>
    simp only [Option.any_some, Option.bind_some]
    by_cases hf : raw.isForeign
    · rw [readBinary_of_isForeign hf, if_pos hf]; rfl
    · rw [if_neg hf]
      cases hb : raw.bytes? with
      | some bs => rw [readBinary_of_bytes? hb]; rfl
      | none =>
        obtain ⟨reason, h⟩ := readBinary_of_bytes?_none (by simpa using hf) hb name
        rw [h]
        exact Logged.result_bind (Logged.steady_write _ _ _ _) fun _ => Logged.steady_pure _

theorem steady_get? (i : Image) (name : String) (tag : Tag) : (i.get? name tag).Steady := by
  cases tag with
  | binary => exact (i.steady_binary? name).bind fun _ => Logged.steady_pure _
  | string => exact Logged.steady_pure _
  | number => exact Logged.steady_pure _

theorem get?_binary_result (i : Image) (name : String) :
    (i.get? name .binary).result =
      (i.binary? name).result.bind fun bs => .ok (bs.map Value.bytes) :=
  Logged.result_bind (i.steady_binary? name) fun _ => Logged.steady_pure _

theorem get?_string_result (i : Image) (name : String) :
    (i.get? name .string).result = .ok (i.raw? name .string) := rfl

/-! ### Contents -/

theorem steady_payload? (i : Image) : i.payload?.Steady := i.steady_binary? _

theorem steady_checksum? (i : Image) : i.checksum?.Steady := i.steady_binary? _

theorem steady_content (i : Image) : i.content.Steady :=
  i.steady_payload?.bind fun _ => (i.steady_get? _ _).bind fun _ =>
    (i.steady_get? _ _).bind fun _ => Logged.steady_pure _

theorem steady_messagesTo (queues : List Value) (i : Image) : (i.messagesTo queues).Steady :=
  i.steady_content.bind fun _ => Logged.steady_pure _

/-- The content of an image whose payload has been read. -/
def contentWith (i : Image) (payload : Option (List UInt8)) : Content :=
  ⟨payload, (i.raw? "Identifier" .string).getD .null, (i.raw? "BaseUrl" .string).getD .null⟩

theorem content_result (i : Image) :
    i.content.result = i.payload?.result.bind fun payload => .ok (i.contentWith payload) := by
  unfold content
  rw [Logged.result_bind i.steady_payload? fun _ => (i.steady_get? _ _).bind fun _ =>
    (i.steady_get? _ _).bind fun _ => Logged.steady_pure _]
  rfl

theorem messagesTo_result (queues : List Value) (i : Image) :
    (i.messagesTo queues).result =
      i.payload?.result.bind fun payload => .ok (queues.map (i.contentWith payload).message) := by
  unfold messagesTo
  rw [Logged.result_bind i.steady_content fun _ => Logged.steady_pure _, content_result]
  cases i.payload?.result <;> rfl

/-- The raw value under a name and a tag is at their path. -/
theorem raw?_eq_at? (i : Image) (name : String) (tag : Tag) :
    i.raw? name tag =
      ((Value.dict i.attributes).at? [name, tag.letter]).filter (!·.isNull) := by
  simp only [raw?, Value.at?, bind]
  rw [show (Value.dict i.attributes).entries? = some i.attributes from rfl, Option.bind_some]
  cases Value.lookup? name i.attributes with
  | none => rfl
  | some wrapper =>
    simp only [Option.bind_some]
    cases wrapper.entries? with
    | none => rfl
    | some entries =>
      simp only [Option.bind_some]
      cases Value.lookup? tag.letter entries with
      | none => rfl
      | some v => cases v <;> rfl

end Image

/-! ### Records -/

namespace StreamRecord

theorem image_at (es : List (Value × Value)) (key : String) :
    Image.ofValue? (Value.getD key (((Value.getD "dynamodb" es).entries?).getD [])) =
      ((Value.dict es).at? ["dynamodb", key]).bind Image.ofValue? := by
  simp only [Value.at?, Value.getD]
  rw [show (Value.dict es).entries? = some es from rfl, Option.bind_some]
  cases Value.lookup? "dynamodb" es with
  | none => rfl
  | some v =>
    simp only [Option.getD_some, Option.bind_some]
    cases v.entries? with
    | none => rfl
    | some fs =>
      simp only [Option.getD_some, Option.bind_some]
      cases Value.lookup? key fs <;> rfl

theorem source_ofValue (raw : Value) :
    (ofValue raw).source = (raw.at? ["eventSource"]).getD .null := by
  cases raw with
  | dict es =>
    simp only [ofValue, Value.getD, Value.at?, Value.entries?, Option.bind_some]
    cases Value.lookup? "eventSource" es <;> rfl
  | _ => rfl

theorem newImage_ofValue (raw : Value) :
    (ofValue raw).newImage = (raw.at? ["dynamodb", "NewImage"]).bind Image.ofValue? := by
  cases raw with
  | dict es => exact image_at es "NewImage"
  | _ => rfl

theorem oldImage_ofValue (raw : Value) :
    (ofValue raw).oldImage = (raw.at? ["dynamodb", "OldImage"]).bind Image.ofValue? := by
  cases raw with
  | dict es => exact image_at es "OldImage"
  | _ => rfl

end StreamRecord

theorem Value.at?_below (raw : Value) (key name : String) (path : List String) :
    raw.at? ("dynamodb" :: key :: name :: path) =
      ((raw.at? ["dynamodb", key]).bind Image.ofValue?).bind fun i =>
        (Value.dict i.attributes).at? (name :: path) := by
  rw [show "dynamodb" :: key :: name :: path = ["dynamodb", key] ++ name :: path from rfl,
    at?_append]
  cases raw.at? ["dynamodb", key] with
  | none => rfl
  | some v =>
    simp only [Option.bind_some]
    cases v with
    | dict es => rfl
    | _ => rfl

end StreamRelay
