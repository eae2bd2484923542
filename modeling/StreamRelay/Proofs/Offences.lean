import StreamRelay.Proofs.Grammar
import StreamRelay.Proofs.Segments

/-!
# The first offence

A text that is not base64 is refused for the first character that is out of place
(`offenceAt?`): one that no text may have, one of the alphabet behind an `=`, or the `=` that
completes the last quad although the text goes on. An `=` at the beginning counts before these, and
a last quad that is not complete after them (`FirstOffence`, `decode_eq_error_iff`). The log says
the reason of every value that cannot be read and is taken to be absent (`unreadable_first_offence`).
-/

namespace StreamRelay

namespace Base64

/-! ### Offences by position -/

/-- One more `=` completes the last quad of the text, which has two or three characters. -/
def LacksOne (cs : List Char) : Prop :=
  (values cs).length % 4 = 2 ∧ cs.count '=' = 1 ∨ (values cs).length % 4 = 3 ∧ cs.count '=' = 0

instance (cs : List Char) : Decidable (LacksOne cs) := by unfold LacksOne; infer_instance

/-- What is wrong with the character at an index, in view of those before it: it is in no text, or
of the alphabet but behind an `=`, or the `=` that completes the last quad without being the last
character. -/
def offenceAt? (cs : List Char) (i : Nat) : Option Offence := do
  let c ← cs[i]?
  if c ∈ alphabet then
    if '=' ∈ cs.take i then some .dataAfterPadding else none
  else if c ≠ '=' then some .foreign
  else if LacksOne (cs.take i) ∧ i + 1 < cs.length then some .excessAfterPadding
  else none

/-- What is wrong at the end of a text with so many characters of the alphabet, if the padding of
the last quad is missing. -/
def offenceAtEnd? (n : Nat) : Option Offence :=
  if n % 4 = 0 then none
  else if n % 4 = 1 then some (.loneCharacter n)
  else some .incompletePadding

/-- The offence for which a text is refused: an `=` at the beginning; else that of the first
character that has one; else that of the end. -/
inductive FirstOffence (cs : List Char) : Offence → Prop where
  | leading (hhead : cs.head? = some '=') : FirstOffence cs .leadingPadding
  | inside {o : Offence} (hhead : cs.head? ≠ some '=') (i : Nat) (ho : offenceAt? cs i = some o)
    (hfirst : ∀ j < i, offenceAt? cs j = none) : FirstOffence cs o
  | atEnd {o : Offence} (hhead : cs.head? ≠ some '=') (hnone : ∀ i, offenceAt? cs i = none)
    (ho : offenceAtEnd? (values cs).length = some o) : FirstOffence cs o

theorem FirstOffence.unique {cs : List Char} {o o' : Offence} (h : FirstOffence cs o)
    (h' : FirstOffence cs o') : o = o' := by
  cases h with
  | leading hhead =>
    cases h' with
    | leading _ => rfl
    | inside hhead' _ _ _ => exact absurd hhead hhead'
    | atEnd hhead' _ _ => exact absurd hhead hhead'
  | inside hhead i ho hfirst =>
    cases h' with
    | leading hhead' => exact absurd hhead' hhead
    | inside _ j ho' hfirst' =>
      obtain hlt | rfl | hlt := Nat.lt_trichotomy i j
      · rw [hfirst' i hlt] at ho; cases ho
      · exact Option.some.inj (ho.symm.trans ho')
      · rw [hfirst j hlt] at ho'; cases ho'
    | atEnd _ hnone _ => rw [hnone] at ho; cases ho
  | atEnd hhead hnone ho =>
    cases h' with
    | leading hhead' => exact absurd hhead' hhead
    | inside _ i ho' _ => rw [hnone] at ho'; cases ho'
    | atEnd _ _ ho' => exact Option.some.inj (ho.symm.trans ho')

/-! ### Behind a spelling -/

theorem isSome_sextet?_iff {c : Char} : (sextet? c).isSome = true ↔ c ∈ alphabet := by
  rw [Option.isSome_iff_exists, mem_alphabet_iff]
  constructor
  · rintro ⟨d, hd⟩
    exact ⟨d, sextet?_eq_some hd⟩
  · rintro ⟨d, hd, rfl⟩
    exact ⟨d, sextet?_symbol hd⟩

theorem lacksOne_spelling {ds : List Nat} (h : Sextets ds) (pads : Nat) :
    LacksOne (spelling ds pads) ↔ missingPadding ds.length = some (pads + 1) := by
  rw [LacksOne, values_spelling h, count_spelling h, missingPadding_eq_some_iff]
  omega

/-- What is wrong with a character behind a spelling depends on the padding that is there and the
padding that is missing. -/
theorem offenceAt?_behind {ds : List Nat} (h : Sextets ds) (pads : Nat) (c : Char)
    (post : List Char) : offenceAt? (spelling ds pads ++ c :: post) (spelling ds pads).length =
      if c ∈ alphabet then if pads = 0 then none else some .dataAfterPadding
      else if c ≠ '=' then some .foreign
      else if missingPadding ds.length = some (pads + 1) ∧ post ≠ [] then some .excessAfterPadding
      else none := by
  have hget : (spelling ds pads ++ c :: post)[(spelling ds pads).length]? = some c := by simp
  have hlast : (spelling ds pads).length + 1 < (spelling ds pads ++ c :: post).length ↔
      post ≠ [] := by
    rw [List.length_append, List.length_cons, ← List.length_pos_iff]
    omega
  unfold offenceAt?
  simp only [hget, Option.bind_eq_bind, Option.bind_some, List.take_left, mem_spelling_pad h,
    lacksOne_spelling h, hlast, ite_not]

theorem offenceAt?_inside {ds : List Nat} (h : Sextets ds) {pads : Nat}
    (hfew : TooFew (missingPadding ds.length) pads) (rest : List Char) {i : Nat}
    (hi : i < (spelling ds pads).length) : offenceAt? (spelling ds pads ++ rest) i = none := by
  rw [spelling, List.length_append, List.length_map, List.length_replicate] at hi
  obtain hlt | hge := Nat.lt_or_ge i ds.length
  · -- A character of the alphabet, with only such characters before it.
    obtain ⟨es, d, fs, rfl, rfl⟩ : ∃ es d fs, ds = es ++ d :: fs ∧ es.length = i :=
      ⟨ds.take i, ds[i], ds.drop (i + 1), by
        rw [← List.drop_eq_getElem_cons hlt, List.take_append_drop],
        List.length_take_of_le (Nat.le_of_lt hlt)⟩
    have hes : Sextets es := fun d hd => h d (List.mem_append_left _ hd)
    have hmem : symbol d ∈ alphabet :=
      mem_alphabet_iff.mpr ⟨d, h d (List.mem_append_right _ List.mem_cons_self), rfl⟩
    have hsplit : spelling (es ++ d :: fs) pads ++ rest =
        spelling es 0 ++ symbol d :: (spelling fs pads ++ rest) := by simp [spelling]
    have hlen : (spelling es 0).length = es.length := by simp [spelling]
    have hbehind := offenceAt?_behind hes 0 (symbol d) (spelling fs pads ++ rest)
    rwa [← hsplit, hlen, if_pos hmem, if_pos rfl] at hbehind
  · -- An `=` that does not complete the padding.
    obtain ⟨p, rfl⟩ := Nat.exists_eq_add_of_le hge
    obtain ⟨q, rfl⟩ := Nat.exists_eq_add_of_lt (Nat.lt_of_add_lt_add_left hi)
    have hsplit : spelling ds (p + q + 1) ++ rest =
        spelling ds p ++ '=' :: (List.replicate q '=' ++ rest) := by
      rw [spelling, Nat.add_assoc, List.replicate_add, List.replicate_succ]
      simp [spelling]
    have hlen : (spelling ds p).length = ds.length + p := by simp [spelling]
    have hmissing : missingPadding ds.length ≠ some (p + 1) := by
      intro hk
      have := hfew _ hk
      omega
    have hbehind := offenceAt?_behind h p '=' (List.replicate q '=' ++ rest)
    rwa [← hsplit, hlen, if_neg (by decide), if_neg (not_not_intro rfl),
      if_neg fun hboth => hmissing hboth.1] at hbehind

theorem offenceAt?_spelling {ds : List Nat} (h : Sextets ds) {pads : Nat}
    (hfew : TooFew (missingPadding ds.length) pads) (i : Nat) :
    offenceAt? (spelling ds pads) i = none := by
  obtain hi | hi := Nat.lt_or_ge i (spelling ds pads).length
  · have hinside := offenceAt?_inside h hfew [] hi
    rwa [List.append_nil] at hinside
  · unfold offenceAt?
    rw [List.getElem?_eq_none hi]
    rfl

/-! ### Reading to the first offence -/

/-- Reading data ends in a fault at a character that no text has. -/
theorem readData_eq_error : ∀ {cs : List Char} {o : Offence}, readData cs = .error o →
    o = .foreign ∧ ∃ ds c post, Sextets ds ∧ cs = spelling ds 0 ++ c :: post ∧ c ≠ '=' ∧
      c ∉ alphabet
  | [], o, h => nomatch h
  | c :: cs, o, h => by
    rw [readData] at h
    split at h
    · cases h
    · rename_i hpad
      cases hc : sextet? c with
      | none =>
        rw [hc] at h
        refine ⟨(Except.error.inj h).symm, [], c, cs, sextets_nil, rfl, hpad, ?_⟩
        rw [← isSome_sextet?_iff, hc]
        exact Bool.false_ne_true
      | some d =>
        rw [hc] at h
        obtain ⟨hlt, hsymbol⟩ := sextet?_eq_some hc
        cases hread : readData cs with
        | error o' =>
          rw [hread] at h
          obtain ⟨ho, ds, c', post, hds, hcs, hc'⟩ := readData_eq_error hread
          refine ⟨(Except.error.inj h).symm.trans ho, d :: ds, c', post,
            sextets_cons.mpr ⟨hlt, hds⟩, ?_, hc'⟩
          rw [spelling_cons, hsymbol, hcs]
          rfl
        | ok r => rw [hread] at h; cases h

/-- Reading padding ends in a fault before it is complete, at a character that is no `=`, or at the
`=` that completes it if that is not the last character. -/
theorem readPadding_eq_error : ∀ {rest : List Char} {missing : Option Nat} {o : Offence},
    TooFew missing 0 → readPadding missing rest = .error o →
    ∃ pads c post, rest = List.replicate pads '=' ++ c :: post ∧ TooFew missing pads ∧
      (c ≠ '=' ∧ o = (if c ∈ alphabet then .dataAfterPadding else .foreign) ∨
        c = '=' ∧ missing = some (pads + 1) ∧ post ≠ [] ∧ o = .excessAfterPadding)
  | [], missing, o, _, h => nomatch h
  | c :: cs, missing, o, hpos, h => by
    by_cases hc : c = '='
    · subst hc
      rw [readPadding_pad] at h
      split at h
      · rename_i hone
        split at h
        · cases h
        · rename_i hcs
          exact ⟨0, '=', cs, rfl, hpos, .inr ⟨rfl, hone, hcs, (Except.error.inj h).symm⟩⟩
      · rename_i hne
        obtain ⟨pads, c, post, rfl, hfew, hstop⟩ :=
          readPadding_eq_error (tooFew_pred_iff.mpr (hpos.one hne)) h
        rw [hpos.pred_eq_some_iff] at hstop
        exact ⟨pads + 1, c, post, rfl, tooFew_pred_iff.mp hfew, hstop⟩
    · rw [readPadding_of_ne hc] at h
      simp only [isSome_sextet?_iff] at h
      exact ⟨0, c, cs, rfl, hpos, .inl ⟨hc, (Except.error.inj h).symm⟩⟩

/-- A character behind a spelling whose padding is not complete is the first offence, if it is one. -/
theorem firstOffence_behind {ds : List Nat} (h : Sextets ds) {pads : Nat}
    (hfew : TooFew (missingPadding ds.length) pads) {c : Char} {post : List Char} {o : Offence}
    (hhead : (spelling ds pads ++ c :: post).head? ≠ some '=')
    (ho : offenceAt? (spelling ds pads ++ c :: post) (spelling ds pads).length = some o) :
    FirstOffence (spelling ds pads ++ c :: post) o :=
  .inside hhead _ ho fun _ hj => offenceAt?_inside h hfew _ hj

theorem firstOffence_of_readData {cs : List Char} {o : Offence} (hhead : cs.head? ≠ some '=')
    (h : readData cs = .error o) : FirstOffence cs o := by
  obtain ⟨rfl, ds, c, post, hds, rfl, hpad, hc⟩ := readData_eq_error h
  refine firstOffence_behind hds (tooFew_zero _) hhead ?_
  rw [offenceAt?_behind hds, if_neg hc, if_pos hpad]

theorem firstOffence_of_readPadding {ds : List Nat} {rest : List Char} {o : Offence}
    (hds : Sextets ds) (hhead : (ds.map symbol ++ rest).head? ≠ some '=')
    (hrest : ∀ c ∈ rest.head?, c = '=')
    (h : readPadding (missingPadding ds.length) rest = .error o) :
    FirstOffence (ds.map symbol ++ rest) o := by
  obtain ⟨pads, c, post, rfl, hfew, hstop⟩ := readPadding_eq_error (tooFew_zero _) h
  rw [← List.append_assoc] at hhead ⊢
  refine firstOffence_behind hds hfew hhead ?_
  rw [offenceAt?_behind hds]
  obtain ⟨hc, rfl⟩ | ⟨rfl, hmissing, hpost, rfl⟩ := hstop
  · by_cases hmem : c ∈ alphabet
    · have hpads : pads ≠ 0 := by
        rintro rfl
        exact hc (hrest c rfl)
      rw [if_pos hmem, if_neg hpads, if_pos hmem]
    · rw [if_neg hmem, if_pos hc, if_neg hmem]
  · rw [if_neg (by decide), if_neg (not_not_intro rfl), if_pos ⟨hmissing, hpost⟩]

theorem firstOffence_of_incomplete {ds : List Nat} {rest : List Char} {o : Offence}
    (hds : Sextets ds) (hhead : (ds.map symbol ++ rest).head? ≠ some '=')
    (h : readPadding (missingPadding ds.length) rest = .ok false)
    (ho : offenceAtEnd? ds.length = some o) : FirstOffence (ds.map symbol ++ rest) o := by
  obtain ⟨pads, rfl, hend⟩ := (readPadding_eq_ok_iff (tooFew_zero _)).mp h
  have hfew : TooFew (missingPadding ds.length) pads := by simpa using hend
  refine .atEnd hhead (offenceAt?_spelling hds hfew) ?_
  rw [show ds.map symbol ++ List.replicate pads '=' = spelling ds pads from rfl,
    values_spelling hds, ho]

theorem firstOffence_of_decode {cs : List Char} {o : Offence} (h : decode cs = .error o) :
    FirstOffence cs o := by
  by_cases hhead : cs.head? = some '='
  · rw [decode_of_leading hhead] at h
    rw [← Except.error.inj h]
    exact .leading hhead
  cases hread : readData cs with
  | error o' =>
    rw [decode_of_readData_error hhead hread] at h
    rw [← Except.error.inj h]
    exact firstOffence_of_readData hhead hread
  | ok r =>
    obtain ⟨ds, rest⟩ := r
    obtain ⟨hds, rfl, hrest⟩ := readData_eq_ok hread
    cases hpad : readPadding (missingPadding ds.length) rest with
    | error o' =>
      rw [decode_of_readPadding_error hhead hread hpad] at h
      rw [← Except.error.inj h]
      exact firstOffence_of_readPadding hds hhead hrest hpad
    | ok complete =>
      rw [decode_of_readPadding hhead hread hpad] at h
      split at h
      · cases h
      · rename_i hincomplete
        obtain ⟨hcomplete, hquads⟩ := not_or.mp hincomplete
        rw [Bool.not_eq_true] at hcomplete
        subst hcomplete
        refine firstOffence_of_incomplete hds hhead hpad ?_
        rw [offenceAtEnd?, if_neg hquads]
        split at h
        all_goals rename_i hone
        · rw [if_pos hone, Except.error.inj h]
        · rw [if_neg hone, Except.error.inj h]

/-- **Why a text does not decode**: it is in no form of the grammar, and the reason is its first
offence. -/
theorem decode_eq_error_iff {cs : List Char} {o : Offence} :
    decode cs = .error o ↔ cs ∉ grammar ∧ FirstOffence cs o := by
  rw [← decode_ok_iff_mem_grammar]
  constructor
  · intro h
    exact ⟨by simp [h], firstOffence_of_decode h⟩
  · rintro ⟨hnot, ho⟩
    cases hdecode : decode cs with
    | ok bs => exact absurd ⟨bs, hdecode⟩ hnot
    | error o' => rw [(firstOffence_of_decode hdecode).unique ho]

/-- A text with three offences. -/
example : (List.range 7).map (offenceAt? "AA==A?".toList) =
    [none, none, none, some .excessAfterPadding, some .dataAfterPadding, some .foreign, none] := by
  decide

end Base64

open Base64

/-! ### Unreadable values -/

theorem readBinary_text_eq_error_iff {name s : String} (h : ∀ c ∈ s.toList, c.toNat < 128)
    {fault : Fault} : readBinary name (.text s) = .error fault ↔ s.toList ∉ grammar ∧
      ∃ o, FirstOffence s.toList o ∧ fault = .unreadableBinary name o.text := by
  rw [readBinary_of_ascii h]
  constructor
  · intro herror
    cases hdecode : decode s.toList with
    | ok bs => rw [hdecode] at herror; cases herror
    | error o =>
      rw [hdecode] at herror
      obtain ⟨hnot, ho⟩ := decode_eq_error_iff.mp hdecode
      exact ⟨hnot, o, ho, (Except.error.inj herror).symm⟩
  · rintro ⟨hnot, o, ho, rfl⟩
    rw [decode_eq_error_iff.mpr ⟨hnot, ho⟩]
    rfl

theorem readBinary_of_other {v : Value} (htext : ∀ s, v ≠ .text s) (hbytes : ∀ bs, v ≠ .bytes bs)
    (hbuffer : ∀ bs, v ≠ .buffer bs) (name : String) : readBinary name v =
      .error (.unreadableBinary name ("unexpected " ++ v.typeName ++ " value")) := by
  cases v with
  | text s => exact absurd rfl (htext s)
  | bytes bs => exact absurd rfl (hbytes bs)
  | buffer bs => exact absurd rfl (hbuffer bs)
  | _ => rfl

theorem Image.get?_of_unreadable {i : Image} {name reason : String} {v : Value} {log : Log}
    (hraw : i.raw? name .binary = some v)
    (hread : readBinary name v = .error (.unreadableBinary name reason))
    (hlog : log.refuse (Log.unreadable log.bound name reason) = none) :
    i.get? name .binary log =
      (.ok none, { log with entries := log.entries ++ [Log.unreadable log.bound name reason] }) := by
  have hwrite : Log.write Image.logger .warning "Unreadable binary attribute"
      [("attribute", .text name), ("error", .text reason)] log =
      (.ok (), { log with entries := log.entries ++ [Log.unreadable log.bound name reason] }) := by
    simp only [Log.unreadable] at hlog ⊢
    simp only [Log.write, hlog]
  rw [get?, except_bind_at, binary?, hraw]
  simp only [hread]
  rw [except_bind_at, hwrite]
  rfl

/-- **What is wrong with an unreadable value.** An ASCII text is refused exactly if it is in no form
of the grammar, and the reason is its first offence. For a value that is neither text nor a byte
string the reason is its type. Under the tag of binary values, each of these that is not null is
absent from an image, and one warning, with the name and the reason, is written, unless the log
refuses it. -/
theorem unreadable_first_offence (name : String) :
    (∀ s : String, (∀ c ∈ s.toList, c.toNat < 128) → ∀ fault,
      (readBinary name (.text s) = .error fault ↔ s.toList ∉ grammar ∧
        ∃ o, FirstOffence s.toList o ∧ fault = .unreadableBinary name o.text)) ∧
      (∀ v : Value, (∀ s, v ≠ .text s) → (∀ bs, v ≠ .bytes bs) → (∀ bs, v ≠ .buffer bs) →
        readBinary name v =
          .error (.unreadableBinary name ("unexpected " ++ v.typeName ++ " value"))) ∧
      ∀ (i : Image) (v : Value) (reason : String) (log : Log),
        (Value.dict i.attributes).at? [name, "B"] = some v → v.isNull = false →
        readBinary name v = .error (.unreadableBinary name reason) →
        log.refuse (Log.unreadable log.bound name reason) = none →
        i.get? name .binary log =
          (.ok none, { log with entries := log.entries ++ [Log.unreadable log.bound name reason] }) := by
  refine ⟨fun s hascii fault => readBinary_text_eq_error_iff hascii,
    fun v htext hbytes hbuffer => readBinary_of_other htext hbytes hbuffer name,
    fun i v reason log hat hnull hread hlog => Image.get?_of_unreadable ?_ hread hlog⟩
  rw [Image.raw?_eq_at?, show Tag.binary.letter = "B" from rfl, hat, Option.filter_some, hnull]
  rfl

/-- Of three offences in a text, the first is the reason why its value is absent. -/
theorem unreadable_first_offence_of_three :
    let i : Image := ⟨[(.text "XML", .ofFields [("B", .text "AA==A?")])]⟩
    ((∀ c ∈ "AA==A?".toList, c.toNat < 128) ∧ readBinary "XML" (.text "AA==A?") =
        .error (.unreadableBinary "XML" "Excess data after padding") ∧
      "AA==A?".toList ∉ grammar ∧ ∃ o, FirstOffence "AA==A?".toList o ∧
        Fault.unreadableBinary "XML" "Excess data after padding" =
          .unreadableBinary "XML" o.text) ∧
      readBinary "XML" (.int 42) = .error (.unreadableBinary "XML" "unexpected int value") ∧
      (Value.dict i.attributes).at? ["XML", "B"] = some (.text "AA==A?") ∧
      i.get? "XML" .binary Log.empty =
        (.ok none, { Log.empty with
          entries := [Log.unreadable [] "XML" "Excess data after padding"] }) := by
  intro i
  obtain ⟨htext, hother, habsent⟩ := unreadable_first_offence "XML"
  have hall : ("AA==A?".toList.all fun c => c.toNat < 128) = true := rfl
  have hascii : ∀ c ∈ "AA==A?".toList, c.toNat < 128 :=
    fun c hc => of_decide_eq_true (List.all_eq_true.mp hall c hc)
  have hread : readBinary "XML" (.text "AA==A?") =
      .error (.unreadableBinary "XML" "Excess data after padding") := rfl
  have hat : (Value.dict i.attributes).at? ["XML", "B"] = some (.text "AA==A?") := rfl
  exact ⟨⟨hascii, hread, (htext "AA==A?" hascii _).mp hread⟩,
    hother (.int 42) (fun _ => nofun) (fun _ => nofun) (fun _ => nofun), hat,
    habsent i (.text "AA==A?") "Excess data after padding" Log.empty hat rfl hread rfl⟩

end StreamRelay
