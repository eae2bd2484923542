import Mathlib.Computability.Language
import Mathlib.Order.CompletePartialOrder
import StreamRelay.Proofs.Reading
import StreamRelay.Proofs.Spelling

/-!
# The grammar of base64

The texts that are read as bytes form a language over the alphabet and `=`: quads of characters,
with any padding behind them if there is one at least, or with a last quad that padding completes
(`mem_grammar_iff`). What is read is the beginning of the binary digits that the characters stand
for, six each, as far as these fill bytes (`bits_pack`). Every other text of ASCII characters is
unreadable under the name it was read for, and a text that is not ASCII is a fault of its own
(`readBinary_text`).
-/

open scoped Computability

namespace StreamRelay

namespace Base64

/-! ### Languages -/

/-- The characters of the alphabet, in the order of their values. -/
def alphabet : List Char :=
  "ABCDEFGHIJKLMNOPQRSTUVWXYZabcdefghijklmnopqrstuvwxyz0123456789+/".toList

def letter : Language Char := {w | ∃ c ∈ alphabet, w = [c]}

def pad : Language Char := {['=']}

def quad : Language Char := letter ^ 4

/-- The texts that spell bytes: none of a character; quads, one at least, and any padding; or quads
and a last one of two or three characters that padding completes. -/
def grammar : Language Char :=
  1 + quad * quad∗ * pad∗ + quad∗ * letter ^ 2 * pad ^ 2 + quad∗ * letter ^ 3 * pad

theorem alphabet_eq : alphabet = (List.range 64).map symbol := rfl

theorem mem_alphabet_iff {c : Char} : c ∈ alphabet ↔ ∃ d < 64, symbol d = c := by
  rw [alphabet_eq, List.mem_map]
  simp only [List.mem_range]

theorem idxOf_symbol {d : Nat} (h : d < 64) : alphabet.idxOf (symbol d) = d := by
  have hinj : ∀ m ∈ List.range 64, ∀ n ∈ List.range 64, symbol m = symbol n → m = n := by
    intro m hm n hn heq
    have hsextet := congrArg sextet? heq
    rw [sextet?_symbol (List.mem_range.mp hm), sextet?_symbol (List.mem_range.mp hn)] at hsextet
    exact Option.some.inj hsextet
  have hnodup : ((List.range 64).map symbol).Nodup := List.nodup_range.map_on hinj
  have hindex := hnodup.idxOf_getElem d (by simpa using h)
  rwa [List.getElem_map, List.getElem_range] at hindex

theorem mem_letter_pow : ∀ {n : Nat} {w : List Char},
    w ∈ letter ^ n ↔ ∃ ds, Sextets ds ∧ ds.length = n ∧ w = ds.map symbol
  | 0, w => by
    rw [pow_zero, Language.mem_one]
    constructor
    · rintro rfl
      exact ⟨[], sextets_nil, rfl, rfl⟩
    · rintro ⟨ds, -, hlen, rfl⟩
      rw [List.length_eq_zero_iff.mp hlen]; rfl
  | n + 1, w => by
    rw [pow_succ', Language.mem_mul]
    constructor
    · rintro ⟨_, ⟨c, hc, rfl⟩, v, hv, rfl⟩
      obtain ⟨d, hd, rfl⟩ := mem_alphabet_iff.mp hc
      obtain ⟨ds, hds, rfl, rfl⟩ := mem_letter_pow.mp hv
      exact ⟨d :: ds, sextets_cons.mpr ⟨hd, hds⟩, rfl, rfl⟩
    · rintro ⟨ds, hds, hlen, rfl⟩
      obtain ⟨d, ds, rfl⟩ := List.exists_cons_of_length_eq_add_one hlen
      obtain ⟨hd, hds⟩ := sextets_cons.mp hds
      refine ⟨[symbol d], ⟨symbol d, mem_alphabet_iff.mpr ⟨d, hd, rfl⟩, rfl⟩, ds.map symbol, ?_, rfl⟩
      exact mem_letter_pow.mpr ⟨ds, hds, Nat.succ.inj hlen, rfl⟩

theorem mem_pad_pow : ∀ {n : Nat} {w : List Char}, w ∈ pad ^ n ↔ w = List.replicate n '='
  | 0, w => by rw [pow_zero, Language.mem_one]; rfl
  | n + 1, w => by
    rw [pow_succ', Language.mem_mul, List.replicate_succ]
    constructor
    · rintro ⟨_, rfl, v, hv, rfl⟩
      rw [mem_pad_pow.mp hv]; rfl
    · rintro rfl
      exact ⟨['='], rfl, List.replicate n '=', mem_pad_pow.mpr rfl, rfl⟩

theorem mem_letter_pow_mul_pad_pow {n pads : Nat} {w : List Char} :
    w ∈ letter ^ n * pad ^ pads ↔ ∃ ds, Sextets ds ∧ ds.length = n ∧ w = spelling ds pads := by
  rw [Language.mem_mul]
  constructor
  · rintro ⟨u, hu, v, hv, rfl⟩
    obtain ⟨ds, hds, hlen, rfl⟩ := mem_letter_pow.mp hu
    rw [mem_pad_pow.mp hv]
    exact ⟨ds, hds, hlen, rfl⟩
  · rintro ⟨ds, hds, hlen, rfl⟩
    exact ⟨_, mem_letter_pow.mpr ⟨ds, hds, hlen, rfl⟩, _, mem_pad_pow.mpr rfl, rfl⟩

theorem kstar_quad : quad∗ = ⨆ i : Nat, letter ^ (4 * i) := by
  rw [Language.kstar_eq_iSup_pow]
  exact iSup_congr fun i => (pow_mul letter 4 i).symm

/-- The first form of a text: whole quads, one at least, and any padding. -/
theorem mem_quads_iff {w : List Char} : w ∈ quad * quad∗ * pad∗ ↔
    ∃ n pads, w ∈ letter ^ (4 * (n + 1)) * pad ^ pads := by
  have hquads (n : Nat) : quad * letter ^ (4 * n) = letter ^ (4 * (n + 1)) := by
    rw [quad, ← pow_add]
    congr 1
    omega
  rw [kstar_quad, Language.kstar_eq_iSup_pow, Language.mul_iSup _ quad, Language.iSup_mul,
    Language.mem_iSup]
  simp only [hquads, Language.mul_iSup, Language.mem_iSup]

/-- The other forms: quads, and a last one of `k` characters with its padding. -/
theorem mem_last_quad_iff {k pads : Nat} {w : List Char} : w ∈ quad∗ * letter ^ k * pad ^ pads ↔
    ∃ n, w ∈ letter ^ (4 * n + k) * pad ^ pads := by
  rw [kstar_quad, Language.iSup_mul, Language.iSup_mul, Language.mem_iSup]
  simp only [pow_add]

/-- **The grammar** has the spellings of sextets with padding that fits. -/
theorem mem_grammar_iff {cs : List Char} :
    cs ∈ grammar ↔ ∃ ds pads, Sextets ds ∧ Fits ds.length pads ∧ cs = spelling ds pads := by
  have hforms : cs ∈ grammar ↔ ((cs = [] ∨ ∃ n pads, cs ∈ letter ^ (4 * (n + 1)) * pad ^ pads) ∨
      ∃ n, cs ∈ letter ^ (4 * n + 2) * pad ^ 2) ∨ ∃ n, cs ∈ letter ^ (4 * n + 3) * pad ^ 1 := by
    rw [← mem_quads_iff, ← mem_last_quad_iff, ← mem_last_quad_iff, pow_one]
    rfl
  simp only [hforms, mem_letter_pow_mul_pad_pow]
  constructor
  · rintro (((rfl | ⟨n, pads, ds, hds, hlen, rfl⟩) | ⟨n, ds, hds, hlen, rfl⟩) |
      ⟨n, ds, hds, hlen, rfl⟩)
    · exact ⟨[], 0, sextets_nil, .inl ⟨rfl, fun _ => rfl⟩, rfl⟩
    · exact ⟨ds, pads, hds, .inl (by omega), rfl⟩
    · exact ⟨ds, 2, hds, .inr (.inl (by omega)), rfl⟩
    · exact ⟨ds, 1, hds, .inr (.inr (by omega)), rfl⟩
  · rintro ⟨ds, pads, hds, ⟨hlen, hnone⟩ | ⟨hlen, rfl⟩ | ⟨hlen, rfl⟩, rfl⟩
    · rcases ds with _ | ⟨d, ds⟩
      · rw [hnone rfl]
        exact .inl (.inl (.inl rfl))
      · refine .inl (.inl (.inr ⟨(d :: ds).length / 4 - 1, pads, d :: ds, hds, ?_, rfl⟩))
        rw [List.length_cons] at hlen ⊢
        omega
    · exact .inl (.inr ⟨ds.length / 4, ds, hds, by omega, rfl⟩)
    · exact .inr ⟨ds.length / 4, ds, hds, by omega, rfl⟩

/-- **The texts that decode** are those of the grammar. -/
theorem decode_ok_iff_mem_grammar {cs : List Char} : (∃ bs, decode cs = .ok bs) ↔ cs ∈ grammar := by
  rw [mem_grammar_iff]
  constructor
  · rintro ⟨bs, h⟩
    obtain ⟨ds, pads, hds, hfits, hcs, -⟩ := decode_eq_ok_iff.mp h
    exact ⟨ds, pads, hds, hfits, hcs⟩
  · rintro ⟨ds, pads, hds, hfits, hcs⟩
    exact ⟨pack ds, decode_eq_ok_iff.mpr ⟨ds, pads, hds, hfits, hcs, rfl⟩⟩

/-! ### Binary digits -/

/-- The values of the characters of a text that are in the alphabet. -/
def values (cs : List Char) : List Nat := (cs.filter (· ∈ alphabet)).map alphabet.idxOf

/-- The last binary digits of a number, as many as asked for, the highest first. -/
def bits (n : Nat) : Nat → List Bool
  | 0 => []
  | width + 1 => n.testBit width :: bits n width

theorem values_spelling {ds : List Nat} (h : Sextets ds) (pads : Nat) :
    values (spelling ds pads) = ds := by
  induction ds with
  | nil =>
    rw [values, List.filter_eq_nil_iff.mpr, List.map_nil]
    intro c hc
    rw [List.eq_of_mem_replicate hc]
    decide
  | cons d ds ih =>
    obtain ⟨hd, hds⟩ := sextets_cons.mp h
    have hmem : symbol d ∈ alphabet := mem_alphabet_iff.mpr ⟨d, hd, rfl⟩
    rw [values] at ih ⊢
    rw [spelling_cons, List.filter_cons_of_pos (by simpa using hmem), List.map_cons,
      idxOf_symbol hd, ih hds]

theorem bits_add (n low : Nat) : ∀ high, bits n (high + low) = bits (n / 2 ^ low) high ++ bits n low
  | 0 => by rw [Nat.zero_add]; rfl
  | high + 1 => by
    rw [Nat.add_right_comm, bits, bits_add n low high, bits, Nat.testBit_div_two_pow,
      List.cons_append]

theorem bits_congr {m n : Nat} : ∀ {width}, m % 2 ^ width = n % 2 ^ width →
    bits m width = bits n width
  | 0, _ => rfl
  | width + 1, h => by
    have hbit : m.testBit width = n.testBit width := by
      have htop := congrArg (·.testBit width) h
      simpa [Nat.testBit_mod_two_pow] using htop
    have hlow : m % 2 ^ width = n % 2 ^ width := by
      have hdvd : 2 ^ width ∣ 2 ^ (width + 1) := ⟨2, Nat.pow_succ ..⟩
      rw [← Nat.mod_mod_of_dvd m hdvd, h, Nat.mod_mod_of_dvd n hdvd]
    rw [bits, bits, hbit, bits_congr hlow]

theorem bits_join {n a b : Nat} (high low : Nat) (hhigh : n / 2 ^ low % 2 ^ high = a % 2 ^ high)
    (hlow : n % 2 ^ low = b % 2 ^ low) : bits n (high + low) = bits a high ++ bits b low := by
  rw [bits_add, bits_congr hhigh, bits_congr hlow]

/-! A quad of sextets has the digits of three bytes: six and two, four and four, two and six. -/

theorem bits_first_byte {a b : Nat} (ha : a < 64) (hb : b < 64) :
    bits (UInt8.ofNat (a * 4 + b / 16)).toNat 8 = bits a 6 ++ bits (b / 16) 2 := by
  rw [toNat_byte (by omega)]
  exact bits_join 6 2 (by omega) (by omega)

theorem bits_second_byte {b c : Nat} (hc : c < 64) :
    bits (UInt8.ofNat (b % 16 * 16 + c / 4)).toNat 8 = bits b 4 ++ bits (c / 4) 4 := by
  rw [toNat_byte (by omega)]
  exact bits_join 4 4 (by omega) (by omega)

theorem bits_third_byte {c d : Nat} (hd : d < 64) :
    bits (UInt8.ofNat (c % 4 * 64 + d)).toNat 8 = bits c 2 ++ bits d 6 := by
  rw [toNat_byte (by omega)]
  exact bits_join 2 6 (by omega) (by omega)

/-- **The bytes of sextets** have the digits of the sextets, as far as these fill bytes. -/
theorem bits_pack : ∀ {ds : List Nat}, Sextets ds →
    ((pack ds).flatMap fun b => bits b.toNat 8) <+: ds.flatMap fun d => bits d 6
  | [], _ => List.prefix_refl _
  | [_], _ => List.nil_prefix
  | [a, b], hds => by
    obtain ⟨ha, hb⟩ : a < 64 ∧ b < 64 := by simpa [Sextets] using hds
    refine ⟨bits b 4, ?_⟩
    simp only [pack, List.flatMap_cons, List.flatMap_nil, bits_first_byte ha hb,
      bits_add b 4 2, List.append_assoc, List.append_nil, Nat.reducePow]
  | [a, b, c], hds => by
    obtain ⟨ha, hb, hc⟩ : a < 64 ∧ b < 64 ∧ c < 64 := by simpa [Sextets] using hds
    refine ⟨bits c 2, ?_⟩
    simp only [pack, List.flatMap_cons, List.flatMap_nil, bits_first_byte ha hb,
      bits_second_byte hc, bits_add b 4 2, bits_add c 2 4, List.append_assoc, List.append_nil,
      Nat.reducePow]
  | a :: b :: c :: d :: ds, hds => by
    simp only [sextets_cons] at hds
    obtain ⟨ha, hb, hc, hd, hds⟩ := hds
    obtain ⟨dropped, hrest⟩ := bits_pack hds
    refine ⟨dropped, ?_⟩
    simp only [pack, List.flatMap_cons, bits_first_byte ha hb, bits_second_byte hc,
      bits_third_byte hd, ← hrest, bits_add b 4 2, bits_add c 2 4, List.append_assoc,
      Nat.reducePow]

end Base64

/-! ### Reading -/

open Base64

theorem readBinary_of_ascii {s : String} (h : ∀ c ∈ s.toList, c.toNat < 128) (name : String) :
    readBinary name (.text s) =
      (decode s.toList).mapError fun o => .unreadableBinary name o.text := by
  refine readBinary_of_not_isForeign ?_ name
  rw [← Bool.not_eq_true, Value.isForeign_text_iff]
  rintro ⟨c, hc, hge⟩
  exact Nat.not_le_of_lt (h c hc) hge

theorem readBinary_of_not_ascii {s : String} (h : ∃ c ∈ s.toList, 128 ≤ c.toNat) (name : String) :
    readBinary name (.text s) = .error .notAscii :=
  readBinary_of_isForeign (Value.isForeign_text_iff.mpr h) name

/-- **Reading text as bytes.** Text with a character outside ASCII is a fault of its own. ASCII text
is read exactly if it is in the grammar; what is read are the bytes that its characters fill with
their binary digits, and the digits that fill no byte are dropped. Any other ASCII text is unreadable
under the name for which it was read. -/
theorem readBinary_text (name s : String) :
    ((∃ c ∈ s.toList, 128 ≤ c.toNat) → readBinary name (.text s) = .error .notAscii) ∧
      ((∀ c ∈ s.toList, c.toNat < 128) →
        ((∃ bs, readBinary name (.text s) = .ok bs) ↔ s.toList ∈ grammar) ∧
        (∀ bs, readBinary name (.text s) = .ok bs →
          bs.length = 6 * (values s.toList).length / 8 ∧
            (bs.flatMap fun b => bits b.toNat 8) <+: (values s.toList).flatMap fun d => bits d 6) ∧
        (s.toList ∉ grammar →
          ∃ reason, readBinary name (.text s) = .error (.unreadableBinary name reason))) := by
  refine ⟨fun h => readBinary_of_not_ascii h name, fun h => ?_⟩
  rw [readBinary_of_ascii h name, ← decode_ok_iff_mem_grammar]
  cases hdecode : decode s.toList with
  | error o =>
    exact ⟨by simp [Except.mapError], by simp [Except.mapError], fun _ => ⟨o.text, rfl⟩⟩
  | ok bs =>
    refine ⟨by simp [Except.mapError], ?_, fun hnot => absurd ⟨bs, rfl⟩ hnot⟩
    intro bs' hbs'
    obtain rfl : bs = bs' := Except.ok.inj hbs'
    obtain ⟨ds, pads, hds, -, hcs, rfl⟩ := decode_eq_ok_iff.mp hdecode
    rw [hcs, values_spelling hds]
    refine ⟨?_, bits_pack hds⟩
    rw [length_pack]
    omega

/-- Padding is read behind whole quads, and low bits are dropped. -/
example : readBinary "XML" (.text "AAAA=") = .ok [0, 0, 0] ∧
    readBinary "XML" (.text "AR==") = .ok [1] := ⟨rfl, rfl⟩

end StreamRelay
