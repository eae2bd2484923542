import StreamRelay.Proofs.Fidelity
import StreamRelay.Proofs.Grammar

/-!
# The bodies of requests

Many texts read as the same bytes, since padding may stand behind whole quads and low bits that fill
no byte are dropped. The body of a request is the one of them in which nothing is dropped
(`Canonical`): it reads as the bytes of the message, and is the text that the bytes were read from
exactly if that text was canonical (`request_normalizes`).
-/

namespace StreamRelay

namespace Base64

/-! ### Canonical texts -/

/-- Nothing of the text is dropped when it is read: no `=` stands behind whole quads, and the low
bits of the last character are zero where they fill no byte, four of them behind two characters of
a quad and two behind three. -/
structure Canonical (cs : List Char) : Prop where
  bare : (values cs).length % 4 = 0 → '=' ∉ cs
  fourZeros : (values cs).length % 4 = 2 → ∀ d ∈ (values cs).getLast?, d % 2 ^ 4 = 0
  twoZeros : (values cs).length % 4 = 3 → ∀ d ∈ (values cs).getLast?, d % 2 ^ 2 = 0

theorem canonical_iff {cs : List Char} : Canonical cs ↔
    ((values cs).length % 4 = 0 → '=' ∉ cs) ∧
      ((values cs).length % 4 = 2 → ∀ d ∈ (values cs).getLast?, d % 2 ^ 4 = 0) ∧
      ((values cs).length % 4 = 3 → ∀ d ∈ (values cs).getLast?, d % 2 ^ 2 = 0) :=
  ⟨fun h => ⟨h.bare, h.fourZeros, h.twoZeros⟩, fun h => ⟨h.1, h.2.1, h.2.2⟩⟩

instance (cs : List Char) : Decidable (Canonical cs) := decidable_of_iff' _ canonical_iff

theorem zeroTail_iff {ds : List Nat} (h : ds.length % 4 ≠ 1) : zeroTail ds = true ↔
    (ds.length % 4 = 2 → ∀ d ∈ ds.getLast?, d % 2 ^ 4 = 0) ∧
      (ds.length % 4 = 3 → ∀ d ∈ ds.getLast?, d % 2 ^ 2 = 0) := by
  have hn : ds.length % 4 < 4 := Nat.mod_lt _ (by omega)
  cases hlast : ds.getLast? with
  | none =>
    rw [List.getLast?_eq_none_iff.mp hlast]
    simp [zeroTail]
  | some d =>
    obtain hmod | hmod | hmod : ds.length % 4 = 0 ∨ ds.length % 4 = 2 ∨ ds.length % 4 = 3 := by omega
    all_goals simp [zeroTail, hmod, hlast]

/-- A text that decodes passes the test exactly if it is canonical. -/
theorem isCanonical_iff {cs : List Char} {bs : List UInt8} (h : decode cs = .ok bs) :
    isCanonical cs = true ↔ Canonical cs := by
  obtain ⟨ds, pads, hds, hfits, rfl, rfl⟩ := decode_eq_ok_iff.mp h
  have hone : ds.length % 4 ≠ 1 := by
    unfold Fits at hfits
    omega
  have hcontains : (spelling ds pads).contains '=' = false ↔ '=' ∉ spelling ds pads := by
    rw [← Bool.not_eq_true, List.contains_iff_mem]
  rw [canonical_iff, values_spelling hds, imp_iff_not_or, and_comm]
  simp only [isCanonical, filterMap_spelling hds, Bool.and_eq_true, Bool.or_eq_true, bne_iff_ne,
    Bool.not_eq_true', hcontains, zeroTail_iff hone]

end Base64

open Base64

/-! ### Requests -/

namespace Message

/-- The body of the message is the byte string. -/
def Bears (m : Message) (bs : List UInt8) : Prop := m.body = .bytes bs ∨ m.body = .buffer bs

theorem request_of_bears {m : Message} {bs : List UInt8} (h : m.Bears bs) :
    m.request = .ok (request.carrying m bs) := by
  unfold request
  obtain h | h := h
  all_goals rw [h]

/-- **The body of a request is a normal form.** A message whose body is a byte string has a request,
whose body reads as this byte string. Of all texts that read as it, under any name, the body of the
request is the one that is canonical. Another byte string gives another body. -/
theorem request_normalizes {m : Message} {bs : List UInt8} (hm : m.Bears bs) :
    ∃ r, m.request = .ok r ∧
      (∀ name, readBinary name (.text r.messageBody) = .ok bs) ∧
      (∀ name s, readBinary name (.text s) = .ok bs →
        (r.messageBody = s ↔ Canonical s.toList)) ∧
      ∀ (m' : Message) (bs' : List UInt8) (r' : Request), m'.Bears bs' → m'.request = .ok r' →
        (r.messageBody = r'.messageBody ↔ bs = bs') := by
  refine ⟨request.carrying m bs, request_of_bears hm, fun name => readBinary_encode name bs, ?_, ?_⟩
  · intro name s hs
    have hdecode := bytes?_text_eq_some_iff.mp (readBinary_eq_ok_iff.mp hs)
    rw [← isCanonical_iff hdecode, ← encode_eq_iff_isCanonical hdecode, ← String.toList_inj]
    simp only [request.carrying, String.toList_ofList]
  · intro m' bs' r' hm' hr'
    obtain rfl : request.carrying m' bs' = r' := Except.ok.inj ((request_of_bears hm').symm.trans hr')
    refine ⟨fun h => ?_, fun h => by rw [h]; rfl⟩
    have hread := readBinary_encode "" bs'
    rw [show String.ofList (encode bs') = String.ofList (encode bs) from h.symm,
      readBinary_encode "" bs] at hread
    exact Except.ok.inj hread

/-- Two texts that read as the byte 1: one is the body for it, the other drops a bit. A body for
the bytes 1 and 0 is neither. -/
theorem request_normalizes_dropped_bit :
    let m : Message := ⟨.text "q", .buffer [1], [], 0⟩
    let m' : Message := ⟨.text "q", .bytes [1, 0], [], 0⟩
    m.Bears [1] ∧ m'.Bears [1, 0] ∧ readBinary "XML" (.text "AQ==") = .ok [1] ∧
      readBinary "XML" (.text "AR==") = .ok [1] ∧
      ∃ r r', m.request = .ok r ∧ m'.request = .ok r' ∧
        readBinary "XML" (.text r.messageBody) = .ok [1] ∧ r.messageBody = "AQ==" ∧
        r.messageBody ≠ "AR==" ∧ r.messageBody ≠ r'.messageBody := by
  intro m m'
  have hm : m.Bears [1] := .inr rfl
  have hm' : m'.Bears [1, 0] := .inl rfl
  have hcanonical : readBinary "XML" (.text "AQ==") = .ok [1] := rfl
  have hdropped : readBinary "XML" (.text "AR==") = .ok [1] := rfl
  obtain ⟨r, hr, hread, hnormal, hother⟩ := request_normalizes hm
  obtain ⟨r', hr', -⟩ := request_normalizes hm'
  refine ⟨hm, hm', hcanonical, hdropped, r, r', hr, hr', hread "XML", ?_, ?_, ?_⟩
  · exact (hnormal "XML" "AQ==" hcanonical).mpr (by decide)
  · exact fun h => absurd ((hnormal "XML" "AR==" hdropped).mp h) (by decide)
  · exact fun h => absurd ((hother m' [1, 0] r' hm' hr').mp h) (by decide)

end Message

end StreamRelay
