import StreamRelay.Base64

/-!
# Base64 texts and their bytes

A text that decodes is the spelling of sextets, followed by as much padding as fits their number
(`decode_eq_ok_iff`), and the text of a byte string spells its sextets (`encode_eq`). So the text of
a byte string decodes to it (`decode_encode`); a text that decodes is the text of its bytes exactly
if it is canonical: no bit of it is dropped, and no `=` stands behind whole quads
(`encode_eq_iff_isCanonical`).
-/

namespace StreamRelay.Base64

/-! ### The alphabet -/

theorem ascii_of_sextet? {c : Char} {d : Nat} (h : sextet? c = some d) : c.toNat < 128 := by
  have hle (a b : Char) : a ≤ b ↔ a.toNat ≤ b.toNat := Iff.rfl
  unfold sextet? at h
  simp only [hle] at h
  split at h
  · rename_i hupper
    exact Nat.lt_of_le_of_lt hupper.2 (by decide)
  split at h
  · rename_i hlower
    exact Nat.lt_of_le_of_lt hlower.2 (by decide)
  split at h
  · rename_i hdigit
    exact Nat.lt_of_le_of_lt hdigit.2 (by decide)
  split at h
  · rename_i hplus
    rw [hplus]; decide
  split at h
  · rename_i hslash
    rw [hslash]; decide
  · cases h

theorem sextet?_eq_some {c : Char} {d : Nat} (h : sextet? c = some d) : d < 64 ∧ symbol d = c := by
  have hascii : ∀ k : Fin 128, ∀ d ∈ sextet? (Char.ofNat k), d < 64 ∧ symbol d = Char.ofNat k := by
    decide
  have hc := hascii ⟨c.toNat, ascii_of_sextet? h⟩ d
  rw [Char.ofNat_toNat] at hc
  exact hc h

theorem sextet?_pad : sextet? '=' = none := rfl

/-! ### Spellings -/

def Sextets (ds : List Nat) : Prop := ∀ d ∈ ds, d < 64

theorem sextets_nil : Sextets [] := List.forall_mem_nil _

theorem sextets_cons {d : Nat} {ds : List Nat} : Sextets (d :: ds) ↔ d < 64 ∧ Sextets ds :=
  List.forall_mem_cons

/-- The text that spells the given values and has the given number of `=` behind. -/
def spelling (ds : List Nat) (pads : Nat) : List Char := ds.map symbol ++ List.replicate pads '='

theorem spelling_cons (d : Nat) (ds : List Nat) (pads : Nat) :
    spelling (d :: ds) pads = symbol d :: spelling ds pads := rfl

theorem filterMap_spelling {ds : List Nat} (h : Sextets ds) (pads : Nat) :
    (spelling ds pads).filterMap sextet? = ds := by
  induction ds with
  | nil =>
    rw [List.filterMap_eq_nil_iff]
    intro c hc
    rw [List.eq_of_mem_replicate hc]
    exact sextet?_pad
  | cons d ds ih =>
    obtain ⟨hd, hds⟩ := sextets_cons.mp h
    rw [spelling_cons, List.filterMap_cons, sextet?_symbol hd, ih hds]

theorem pad_not_mem_symbols {ds : List Nat} (h : Sextets ds) : '=' ∉ ds.map symbol := by
  intro hmem
  obtain ⟨d, hd, heq⟩ := List.mem_map.mp hmem
  exact symbol_ne_pad (h d hd) heq

theorem mem_spelling_pad {ds : List Nat} (h : Sextets ds) (pads : Nat) :
    '=' ∈ spelling ds pads ↔ pads ≠ 0 := by
  rw [spelling, List.mem_append, or_iff_right (pad_not_mem_symbols h), List.mem_replicate]
  simp

theorem count_spelling {ds : List Nat} (h : Sextets ds) (pads : Nat) :
    (spelling ds pads).count '=' = pads := by
  rw [spelling, List.count_append, List.count_eq_zero.mpr (pad_not_mem_symbols h),
    List.count_replicate_self, Nat.zero_add]

theorem spelling_inj {ds es : List Nat} {j k : Nat} (hds : Sextets ds) (hes : Sextets es)
    (h : spelling ds j = spelling es k) : ds = es ∧ j = k := by
  have heq : ds = es := by
    rw [← filterMap_spelling hds j, h, filterMap_spelling hes k]
  refine ⟨heq, ?_⟩
  have hlen := congrArg List.length h
  simp only [spelling, List.length_append, List.length_map, List.length_replicate, heq] at hlen
  omega

/-! ### Reading -/

theorem readData_spelling {ds : List Nat} (h : Sextets ds) (pads : Nat) :
    readData (spelling ds pads) = .ok (ds, List.replicate pads '=') := by
  induction ds with
  | nil => cases pads <;> rfl
  | cons d ds ih =>
    obtain ⟨hd, hds⟩ := sextets_cons.mp h
    rw [spelling_cons, readData, if_neg (symbol_ne_pad hd), sextet?_symbol hd]
    simp only [ih hds]
    rfl

/-- Data is read up to an `=` or to the end. -/
theorem readData_eq_ok : ∀ {cs : List Char} {ds : List Nat} {rest : List Char},
    readData cs = .ok (ds, rest) →
      Sextets ds ∧ cs = ds.map symbol ++ rest ∧ ∀ c ∈ rest.head?, c = '='
  | [], ds, rest, h => by
    cases h
    exact ⟨sextets_nil, rfl, by simp⟩
  | c :: cs, ds, rest, h => by
    rw [readData] at h
    split at h
    · rename_i hpad
      cases h
      exact ⟨sextets_nil, rfl, by simp [hpad]⟩
    · cases hc : sextet? c with
      | none => rw [hc] at h; cases h
      | some d =>
        rw [hc] at h
        simp only [] at h
        cases hread : readData cs with
        | error o => rw [hread] at h; cases h
        | ok r =>
          rw [hread] at h
          cases h
          obtain ⟨hlt, hsymbol⟩ := sextet?_eq_some hc
          obtain ⟨hds, hcs, hrest⟩ := readData_eq_ok (show readData cs = .ok (r.1, r.2) from hread)
          refine ⟨sextets_cons.mpr ⟨hlt, hds⟩, ?_, hrest⟩
          rw [List.map_cons, hsymbol, List.cons_append, ← hcs]

/-- So many `=` do not complete padding of which some are missing. -/
def TooFew (missing : Option Nat) (pads : Nat) : Prop := ∀ k ∈ missing, pads < k

theorem missingPadding_eq_some_iff {n pads : Nat} :
    missingPadding n = some pads ↔ n % 4 = 2 ∧ pads = 2 ∨ n % 4 = 3 ∧ pads = 1 := by
  unfold missingPadding
  split
  · rw [Option.some_inj]
    omega
  · split
    · rw [Option.some_inj]
      omega
    · simp only [reduceCtorEq, false_iff]
      omega

theorem tooFew_zero (n : Nat) : TooFew (missingPadding n) 0 := by
  intro k hk
  have hmissing := missingPadding_eq_some_iff.mp hk
  omega

section TooFew

variable {missing : Option Nat}

theorem TooFew.one (h : TooFew missing 0) (hne : missing ≠ some 1) : TooFew missing 1 := by
  intro k hk
  have hpos := h k hk
  have hk1 : k ≠ 1 := fun h1 => hne (by rw [← h1]; exact hk)
  omega

theorem tooFew_pred_iff {pads : Nat} :
    TooFew (missing.map (· - 1)) pads ↔ TooFew missing (pads + 1) := by
  cases missing with
  | none => simp [TooFew]
  | some k => simp [TooFew]; omega

theorem TooFew.pred_eq_some_iff (h : TooFew missing 0) {pads : Nat} :
    missing.map (· - 1) = some pads ↔ missing = some (pads + 1) := by
  cases missing with
  | none => simp
  | some k =>
    have hpos := h k rfl
    simp
    omega

end TooFew

theorem readPadding_pad (missing : Option Nat) (cs : List Char) : readPadding missing ('=' :: cs) =
    if missing = some 1 then if cs = [] then .ok true else .error .excessAfterPadding
    else readPadding (missing.map (· - 1)) cs := by
  conv => lhs; unfold readPadding
  rw [if_pos rfl]
  split
  · rw [if_pos rfl]
  · rename_i hne
    rw [if_neg hne]

theorem readPadding_of_ne {c : Char} (h : c ≠ '=') (missing : Option Nat) (cs : List Char) :
    readPadding missing (c :: cs) =
      .error (if (sextet? c).isSome then .dataAfterPadding else .foreign) := by
  unfold readPadding
  rw [if_neg h]
  split <;> rfl

/-- Padding is read to its end if all of it is `=`, too few or just as many as are missing. -/
theorem readPadding_eq_ok_iff : ∀ {rest : List Char} {missing : Option Nat} {complete : Bool},
    TooFew missing 0 → (readPadding missing rest = .ok complete ↔
      ∃ pads, rest = List.replicate pads '=' ∧
        (complete = false ∧ TooFew missing pads ∨ complete = true ∧ missing = some pads))
  | [], missing, complete, hpos => by
    constructor
    · intro h
      cases h
      exact ⟨0, rfl, .inl ⟨rfl, hpos⟩⟩
    · rintro ⟨_ | pads, hrest, ⟨rfl, -⟩ | ⟨-, hmissing⟩⟩
      · rfl
      · exact absurd (hpos 0 hmissing) (Nat.lt_irrefl 0)
      all_goals cases hrest
  | c :: cs, missing, complete, hpos => by
    by_cases hc : c = '='
    · subst hc
      have hcons {pads : Nat} : '=' :: cs = List.replicate pads '=' ↔
          ∃ q, pads = q + 1 ∧ cs = List.replicate q '=' := by
        cases pads with
        | zero => simp
        | succ q => simp [List.replicate_succ]
      rw [readPadding_pad]
      split
      · rename_i hone
        subst hone
        constructor
        · intro h
          split at h
          · rename_i hcs
            exact ⟨1, by rw [hcs]; rfl, .inr ⟨(Except.ok.inj h).symm, rfl⟩⟩
          · cases h
        · rintro ⟨_, hrest, hend⟩
          obtain ⟨q, rfl, rfl⟩ := hcons.mp hrest
          obtain ⟨-, hfew⟩ | ⟨rfl, hmissing⟩ := hend
          · have hlt := hfew 1 rfl
            omega
          · obtain rfl : q = 0 := Nat.succ.inj (Option.some.inj hmissing).symm
            rfl
      · rename_i hne
        rw [readPadding_eq_ok_iff (tooFew_pred_iff.mpr (hpos.one hne))]
        simp only [hcons, tooFew_pred_iff, hpos.pred_eq_some_iff]
        constructor
        · rintro ⟨q, hcs, hend⟩
          exact ⟨q + 1, ⟨q, rfl, hcs⟩, hend⟩
        · rintro ⟨_, ⟨q, rfl, hcs⟩, hend⟩
          exact ⟨q, hcs, hend⟩
    · rw [readPadding_of_ne hc]
      refine ⟨fun h => (nomatch h), ?_⟩
      rintro ⟨_ | pads, hrest, -⟩
      · cases hrest
      · exact absurd (List.cons.inj hrest).1 hc

/-- Padding that fits a number of sextets: any number of `=` behind whole quads, but none without a
quad, and else as many as are missing in the last quad, which has two or three characters. -/
def Fits (n pads : Nat) : Prop :=
  n % 4 = 0 ∧ (n = 0 → pads = 0) ∨ n % 4 = 2 ∧ pads = 2 ∨ n % 4 = 3 ∧ pads = 1

theorem readPadding_missing {n : Nat} {rest : List Char} :
    (∃ complete, readPadding (missingPadding n) rest = .ok complete ∧
      (complete = true ∨ n % 4 = 0)) ↔
    ∃ pads, rest = List.replicate pads '=' ∧
      (n % 4 = 0 ∨ n % 4 = 2 ∧ pads = 2 ∨ n % 4 = 3 ∧ pads = 1) := by
  simp only [readPadding_eq_ok_iff (tooFew_zero n), missingPadding_eq_some_iff]
  constructor
  · rintro ⟨complete, ⟨pads, hrest, hend⟩, hok⟩
    refine ⟨pads, hrest, ?_⟩
    obtain ⟨rfl, -⟩ | ⟨-, hmissing⟩ := hend
    · exact .inl (hok.resolve_left Bool.false_ne_true)
    · exact .inr hmissing
  · rintro ⟨pads, hrest, hquads | hmissing⟩
    · exact ⟨false, ⟨pads, hrest, .inl ⟨rfl, by simp [TooFew, missingPadding, hquads]⟩⟩, .inr hquads⟩
    · exact ⟨true, ⟨pads, hrest, .inr ⟨rfl, hmissing⟩⟩, .inl rfl⟩

/-! ### Decoding -/

theorem decode_of_leading {cs : List Char} (h : cs.head? = some '=') :
    decode cs = .error .leadingPadding := by
  rw [decode, if_pos h]

section Decode

variable {cs : List Char} (hhead : cs.head? ≠ some '=')

include hhead

theorem decode_of_readData_error {o : Offence} (h : readData cs = .error o) :
    decode cs = .error o := by
  rw [decode, if_neg hhead, h]
  rfl

variable {ds : List Nat} {rest : List Char} (hread : readData cs = .ok (ds, rest))

include hread

theorem decode_of_readPadding_error {o : Offence}
    (h : readPadding (missingPadding ds.length) rest = .error o) : decode cs = .error o := by
  rw [decode, if_neg hhead, hread]
  simp only [bind, Except.bind, h]

theorem decode_of_readPadding {complete : Bool}
    (h : readPadding (missingPadding ds.length) rest = .ok complete) : decode cs =
      if complete = true ∨ ds.length % 4 = 0 then .ok (pack ds)
      else if ds.length % 4 = 1 then .error (.loneCharacter ds.length)
      else .error .incompletePadding := by
  rw [decode, if_neg hhead, hread]
  simp only [bind, Except.bind, h]

end Decode

/-- **The texts that decode** are the spellings of sextets with padding that fits. -/
theorem decode_eq_ok_iff {cs : List Char} {bs : List UInt8} :
    decode cs = .ok bs ↔ ∃ ds pads, Sextets ds ∧ Fits ds.length pads ∧ cs = spelling ds pads ∧
      pack ds = bs := by
  constructor
  · intro h
    by_cases hhead : cs.head? = some '='
    · rw [decode_of_leading hhead] at h; cases h
    cases hread : readData cs with
    | error o => rw [decode_of_readData_error hhead hread] at h; cases h
    | ok r =>
      obtain ⟨ds, rest⟩ := r
      obtain ⟨hds, rfl, -⟩ := readData_eq_ok hread
      cases hpad : readPadding (missingPadding ds.length) rest with
      | error o => rw [decode_of_readPadding_error hhead hread hpad] at h; cases h
      | ok complete =>
        rw [decode_of_readPadding hhead hread hpad] at h
        split at h
        · rename_i hcomplete
          obtain ⟨pads, rfl, hfits⟩ := readPadding_missing.mp ⟨complete, hpad, hcomplete⟩
          refine ⟨ds, pads, hds, ?_, rfl, Except.ok.inj h⟩
          have hnone : ds.length = 0 → pads = 0 := by
            intro hlen
            rw [List.length_eq_zero_iff.mp hlen] at hhead
            cases pads with
            | zero => rfl
            | succ pads => exact absurd rfl hhead
          exact hfits.imp_left fun hquads => ⟨hquads, hnone⟩
        · split at h <;> cases h
  · rintro ⟨ds, pads, hds, hfits, rfl, rfl⟩
    have hhead : (spelling ds pads).head? ≠ some '=' := by
      cases ds with
      | nil =>
        obtain ⟨-, hnone⟩ | ⟨h, -⟩ | ⟨h, -⟩ := hfits
        · simp [spelling, hnone rfl]
        · simp at h
        · simp at h
      | cons d ds => simpa [spelling_cons] using symbol_ne_pad (sextets_cons.mp hds).1
    obtain ⟨complete, hpad, hcomplete⟩ := readPadding_missing.mpr
      ⟨pads, rfl, (by unfold Fits at hfits; omega : ds.length % 4 = 0 ∨ _)⟩
    rw [decode_of_readPadding hhead (readData_spelling hds pads) hpad, if_pos hcomplete]

/-! ### Bytes and sextets -/

/-- The sextets of a byte string; bits that are missing in the last are zero. -/
def unpack : List UInt8 → List Nat
  | [] => []
  | [a] => [a.toNat / 4, a.toNat % 4 * 16]
  | [a, b] => [a.toNat / 4, a.toNat % 4 * 16 + b.toNat / 16, b.toNat % 16 * 4]
  | a :: b :: c :: bs =>
    a.toNat / 4 :: (a.toNat % 4 * 16 + b.toNat / 16) :: (b.toNat % 16 * 4 + c.toNat / 64)
      :: c.toNat % 64 :: unpack bs

/-- The number of `=` in the text of so many bytes. -/
def padding (n : Nat) : Nat := (3 - n % 3) % 3

theorem padding_add_three (n : Nat) : padding (n + 3) = padding n := by simp [padding]

theorem sextets_unpack : ∀ bs : List UInt8, Sextets (unpack bs)
  | [] => sextets_nil
  | [a] => by
    have ha := a.toNat_lt
    simp only [unpack, Sextets, List.forall_mem_cons]
    refine ⟨by omega, by omega, by simp⟩
  | [a, b] => by
    have ha := a.toNat_lt
    have hb := b.toNat_lt
    simp only [unpack, Sextets, List.forall_mem_cons]
    refine ⟨by omega, by omega, by omega, by simp⟩
  | a :: b :: c :: bs => by
    have ha := a.toNat_lt
    have hb := b.toNat_lt
    have hc := c.toNat_lt
    have ih := sextets_unpack bs
    simp only [unpack, sextets_cons]
    exact ⟨by omega, by omega, by omega, by omega, ih⟩

theorem fits_unpack : ∀ bs : List UInt8, Fits (unpack bs).length (padding bs.length)
  | [] => by simp [Fits, unpack, padding]
  | [a] => by simp [Fits, unpack, padding]
  | [a, b] => by simp [Fits, unpack, padding]
  | a :: b :: c :: bs => by
    have ih := fits_unpack bs
    simp only [unpack, List.length_cons, Fits, padding_add_three] at ih ⊢
    omega

/-- The text of a byte string spells its sextets. -/
theorem encode_eq : ∀ bs : List UInt8, encode bs = spelling (unpack bs) (padding bs.length)
  | [] => rfl
  | [a] => rfl
  | [a, b] => rfl
  | a :: b :: c :: bs => by
    simp only [encode, unpack, spelling_cons, List.length_cons, padding_add_three, encode_eq bs]

theorem ascii_spelling {ds : List Nat} (h : Sextets ds) (pads : Nat) :
    ((spelling ds pads).all fun c => c.toNat < 128) = true := by
  have hsymbol : ∀ k : Fin 64, (symbol k).toNat < 128 := by decide
  rw [List.all_eq_true]
  intro c hc
  rw [decide_eq_true_eq]
  obtain hc | hc := List.mem_append.mp hc
  · obtain ⟨d, hd, rfl⟩ := List.mem_map.mp hc
    exact hsymbol ⟨d, h d hd⟩
  · rw [List.eq_of_mem_replicate hc]
    decide

theorem ascii_of_decode {cs : List Char} {bs : List UInt8} (h : decode cs = .ok bs) :
    (cs.all fun c => c.toNat < 128) = true := by
  obtain ⟨ds, pads, hds, -, rfl, -⟩ := decode_eq_ok_iff.mp h
  exact ascii_spelling hds pads

theorem pack_unpack : ∀ bs : List UInt8, pack (unpack bs) = bs
  | [] => rfl
  | [a] => by
    have ha := a.toNat_lt
    have h : a.toNat / 4 * 4 + a.toNat % 4 * 16 / 16 = a.toNat := by omega
    simp only [unpack, pack, h, UInt8.ofNat_toNat]
  | [a, b] => by
    have hb := b.toNat_lt
    have h : a.toNat / 4 * 4 + (a.toNat % 4 * 16 + b.toNat / 16) / 16 = a.toNat := by omega
    have h' : (a.toNat % 4 * 16 + b.toNat / 16) % 16 * 16 + b.toNat % 16 * 4 / 4 = b.toNat := by
      omega
    simp only [unpack, pack, h, h', UInt8.ofNat_toNat]
  | a :: b :: c :: bs => by
    have hb := b.toNat_lt
    have hc := c.toNat_lt
    have h : a.toNat / 4 * 4 + (a.toNat % 4 * 16 + b.toNat / 16) / 16 = a.toNat := by omega
    have h' : (a.toNat % 4 * 16 + b.toNat / 16) % 16 * 16 +
        (b.toNat % 16 * 4 + c.toNat / 64) / 4 = b.toNat := by omega
    have h'' : (b.toNat % 16 * 4 + c.toNat / 64) % 4 * 64 + c.toNat % 64 = c.toNat := by omega
    simp only [unpack, pack, h, h', h'', UInt8.ofNat_toNat, pack_unpack bs]

/-- **The text of a byte string decodes to it.** -/
theorem decode_encode (bs : List UInt8) : decode (encode bs) = .ok bs :=
  decode_eq_ok_iff.mpr ⟨unpack bs, padding bs.length, sextets_unpack bs, fits_unpack bs,
    encode_eq bs, pack_unpack bs⟩

/-! ### Canonical texts -/

/-- The bits of the last of some sextets that fill no byte are zero. -/
def zeroTail (ds : List Nat) : Bool :=
  match ds.length % 4 with
  | 0 => true
  | 2 => ds.getLastD 0 % 16 == 0
  | 3 => ds.getLastD 0 % 4 == 0
  | _ => false

/-- Of a text that decodes, nothing is dropped: it has no `=` behind whole quads, and zeros for the
bits that fill no byte. -/
def isCanonical (cs : List Char) : Bool :=
  let ds := cs.filterMap sextet?
  zeroTail ds && (ds.length % 4 != 0 || !cs.contains '=')

theorem zeroTail_quad (a b c d : Nat) (ds : List Nat) :
    zeroTail (a :: b :: c :: d :: ds) = zeroTail ds := by
  have hlen : (a :: b :: c :: d :: ds).length % 4 = ds.length % 4 := by
    simp only [List.length_cons]
    omega
  unfold zeroTail
  rw [hlen]
  cases ds with
  | nil => rfl
  | cons e es => rfl

theorem length_pack : ∀ ds : List Nat, (pack ds).length = ds.length * 3 / 4
  | [] => rfl
  | [_] => by simp [pack]
  | [_, _] => by simp [pack]
  | [_, _, _] => by simp [pack]
  | a :: b :: c :: d :: ds => by
    simp only [pack, List.length_cons, length_pack ds]
    omega

theorem toNat_byte {n : Nat} (h : n < 256) : (UInt8.ofNat n).toNat = n :=
  UInt8.toNat_ofNat_of_lt' h

/-- Packed sextets are got back exactly if no bit of them is dropped. -/
theorem unpack_pack_iff : ∀ {ds : List Nat}, Sextets ds → ds.length % 4 ≠ 1 →
    (unpack (pack ds) = ds ↔ zeroTail ds = true)
  | [], _, _ => by simp [unpack, pack, zeroTail]
  | [_], _, h => absurd rfl h
  | [a, b], hds, _ => by
    obtain ⟨ha, hb⟩ : a < 64 ∧ b < 64 := by simpa [Sextets] using hds
    have hbyte := toNat_byte (show a * 4 + b / 16 < 256 by omega)
    simp only [pack, unpack, hbyte, List.cons.injEq, and_true]
    simp [zeroTail]
    omega
  | [a, b, c], hds, _ => by
    obtain ⟨ha, hb, hc⟩ : a < 64 ∧ b < 64 ∧ c < 64 := by simpa [Sextets] using hds
    have hfirst := toNat_byte (show a * 4 + b / 16 < 256 by omega)
    have hsecond := toNat_byte (show b % 16 * 16 + c / 4 < 256 by omega)
    simp only [pack, unpack, hfirst, hsecond, List.cons.injEq, and_true]
    simp [zeroTail]
    omega
  | a :: b :: c :: d :: ds, hds, hlen => by
    simp only [sextets_cons] at hds
    obtain ⟨ha, hb, hc, hd, hds⟩ := hds
    have hlen' : ds.length % 4 ≠ 1 := by
      simp only [List.length_cons] at hlen
      omega
    have hfirst := toNat_byte (show a * 4 + b / 16 < 256 by omega)
    have hsecond := toNat_byte (show b % 16 * 16 + c / 4 < 256 by omega)
    have hthird := toNat_byte (show c % 4 * 64 + d < 256 by omega)
    rw [zeroTail_quad, ← unpack_pack_iff hds hlen']
    simp only [pack, unpack, hfirst, hsecond, hthird, List.cons.injEq]
    refine ⟨fun h => h.2.2.2.2, fun h => ⟨by omega, by omega, by omega, by omega, h⟩⟩

/-- **A text that decodes is the text of its bytes** exactly if nothing of it is dropped. -/
theorem encode_eq_iff_isCanonical {cs : List Char} {bs : List UInt8} (h : decode cs = .ok bs) :
    encode bs = cs ↔ isCanonical cs = true := by
  obtain ⟨ds, pads, hds, hfits, rfl, rfl⟩ := decode_eq_ok_iff.mp h
  have hone : ds.length % 4 ≠ 1 := by
    unfold Fits at hfits
    omega
  -- In a last quad of two or three characters, the padding is the only one that fits.
  have hpad : padding (pack ds).length = pads ↔ ds.length % 4 ≠ 0 ∨ pads = 0 := by
    rw [length_pack]
    unfold Fits at hfits
    unfold padding
    omega
  have hcanonical : isCanonical (spelling ds pads) = true ↔
      zeroTail ds = true ∧ (ds.length % 4 ≠ 0 ∨ pads = 0) := by
    simp only [isCanonical, filterMap_spelling hds, Bool.and_eq_true, Bool.or_eq_true, bne_iff_ne,
      Bool.not_eq_true', ← Bool.not_eq_true, List.contains_iff_mem, mem_spelling_pad hds,
      ne_eq, Decidable.not_not]
  rw [hcanonical, ← unpack_pack_iff hds hone, ← hpad, encode_eq]
  constructor
  · exact spelling_inj (sextets_unpack _) hds
  · rintro ⟨hunpack, hpads⟩
    rw [hunpack, hpads]

end StreamRelay.Base64
