import StreamRelay.Value.Display

/-!
# What can be written out

A value has a text exactly if all whole numbers in it are short enough to be written
(`display_writes`), and where it has none, that is for one fault (`fault?_eq_some_iff`). A text is
made on a stack, which ends somewhere: it has room for values that are nested no deeper than
`Value.deepest`, and statements about programs that write out values are about these.
-/

namespace StreamRelay.Value

mutual

/-- How many values stand one inside another at most. -/
def depth : Value → Nat
  | list vs => depthAll vs + 1
  | tuple vs => depthAll vs + 1
  | dict es => depthEntries es + 1
  | _ => 1

def depthAll : List Value → Nat
  | [] => 0
  | v :: vs => max (depth v) (depthAll vs)

def depthEntries : List (Value × Value) → Nat
  | [] => 0
  | (k, v) :: es => max (max (depth k) (depth v)) (depthEntries es)

end

mutual

/-- The whole numbers in a value, in the order in which they are written. -/
def wholes : Value → List Int
  | int n => [n]
  | list vs => wholesAll vs
  | tuple vs => wholesAll vs
  | dict es => wholesEntries es
  | _ => []

def wholesAll : List Value → List Int
  | [] => []
  | v :: vs => wholes v ++ wholesAll vs

def wholesEntries : List (Value × Value) → List Int
  | [] => []
  | (k, v) :: es => (wholes k ++ wholes v) ++ wholesEntries es

end

/-- No whole number has more digits than are written. -/
def AllShort (ns : List Int) : Prop := ∀ n ∈ ns, n.natAbs.repr.length ≤ mostDigits

def Short (v : Value) : Prop := AllShort v.wholes

/-- A depth whose texts leave room on the stack for the calls that lead to them. -/
def deepest : Nat := 900

theorem allShort_append {ns ms : List Int} : AllShort (ns ++ ms) ↔ AllShort ns ∧ AllShort ms :=
  List.forall_mem_append

/-! ### Texts -/

/-- A computation that writes whole numbers, and fails exactly if one of them is too long. -/
def Writes {α : Type} (x : Except Fault α) (ns : List Int) : Prop :=
  (∃ a, x = .ok a ∧ AllShort ns) ∨ x = .error .tooManyDigits ∧ ¬ AllShort ns

section

variable {α β : Type}

theorem writes_pure (a : α) : Writes (pure a) [] := .inl ⟨a, rfl, fun _ hn => nomatch hn⟩

theorem Writes.bind {x : Except Fault α} {f : α → Except Fault β} {ns ms : List Int}
    (hx : Writes x ns) (hf : ∀ a, Writes (f a) ms) : Writes (x >>= f) (ns ++ ms) := by
  unfold Writes
  rw [allShort_append]
  rcases hx with ⟨a, rfl, hns⟩ | ⟨rfl, hns⟩
  · rcases hf a with ⟨b, hb, hms⟩ | ⟨hb, hms⟩
    · exact .inl ⟨b, hb, hns, hms⟩
    · exact .inr ⟨hb, fun h => hms h.2⟩
  · exact .inr ⟨rfl, fun h => hns h.1⟩

theorem Writes.map {x : Except Fault α} {ns : List Int} (hx : Writes x ns) (f : α → β) :
    Writes (x >>= fun a => pure (f a)) ns := by
  simpa only [List.append_nil] using hx.bind fun a => writes_pure (f a)

end

theorem lt_length_repr_pow {k : Nat} (h : 0 < k) : k < (Nat.pow 10 k).repr.length := by
  rw [← Nat.not_le, Nat.length_repr_le_iff h]
  exact Nat.lt_irrefl _

theorem decimal_writes (n : Int) : Writes (decimal n) [n] := by
  unfold Writes AllShort
  rw [List.forall_mem_singleton]
  by_cases h : n.natAbs.repr.length ≤ mostDigits
  · exact .inl ⟨toString n, if_pos h, h⟩
  · exact .inr ⟨if_neg h, h⟩

mutual

theorem display_writes : ∀ v : Value, Writes v.display v.wholes
  | null => writes_pure _
  | bool _ => writes_pure _
  | int n => decimal_writes n
  | float _ => writes_pure _
  | text _ => writes_pure _
  | bytes _ => writes_pure _
  | buffer _ => writes_pure _
  | list vs => (displayAll_writes vs).map _
  | tuple [] => writes_pure _
  | tuple [v] => by
    have h := (display_writes v).map fun t => "(" ++ t ++ ",)"
    rwa [← List.append_nil v.wholes] at h
  | tuple (v :: w :: vs) => (displayAll_writes (v :: w :: vs)).map _
  | dict es => (displayEntries_writes es).map _

theorem displayAll_writes : ∀ vs : List Value, Writes (displayAll vs) (wholesAll vs)
  | [] => writes_pure _
  | v :: vs => (display_writes v).bind fun _ => (displayAll_writes vs).map _

theorem displayEntries_writes : ∀ es : List (Value × Value),
    Writes (displayEntries es) (wholesEntries es)
  | [] => writes_pure _
  | (k, v) :: es => by
    have h := (display_writes k).bind fun tk => (display_writes v).bind fun tv =>
      (displayEntries_writes es).map fun ts => (tk ++ ": " ++ tv) :: ts
    rwa [← List.append_assoc] at h

end

/-- The fault of a value that has no text. -/
def fault? (v : Value) : Option Fault :=
  match v.display with
  | .error fault => some fault
  | .ok _ => none

theorem fault?_eq_some_iff {v : Value} {fault : Fault} :
    v.fault? = some fault ↔ fault = .tooManyDigits ∧ ¬ v.Short := by
  unfold fault? Short
  rcases v.display_writes with ⟨t, ht, hshort⟩ | ⟨herror, hlong⟩
  · rw [ht]
    exact ⟨fun h => (nomatch h), fun h => absurd hshort h.2⟩
  · rw [herror]
    exact ⟨fun h => ⟨(Option.some.inj h).symm, hlong⟩, fun h => by rw [h.1]⟩

end StreamRelay.Value
