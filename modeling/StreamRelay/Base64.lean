/-!
# Base64

`encode` writes three bytes as four characters of the alphabet and pads with `=`. `decode` reads
strictly: alphabet characters up to the first `=`, then padding only, and the first offence is
reported. The low bits that do not fill a byte are dropped whatever they are, and whole quads may
be followed by any number of `=`.
-/

namespace StreamRelay.Base64

/-- The reasons why a text is not base64. -/
inductive Offence where
  | foreign
  | leadingPadding
  | dataAfterPadding
  | excessAfterPadding
  | incompletePadding
  | loneCharacter (count : Nat)
deriving DecidableEq, Repr

def Offence.text : Offence → String
  | foreign => "Only base64 data is allowed"
  | leadingPadding => "Leading padding not allowed"
  | dataAfterPadding => "Discontinuous padding not allowed"
  | excessAfterPadding => "Excess data after padding"
  | incompletePadding => "Incorrect padding"
  | loneCharacter n =>
    "Invalid base64-encoded string: number of data characters (" ++ toString n
      ++ ") cannot be 1 more than a multiple of 4"

/-! ### The alphabet -/

/-- The value of an alphabet character. -/
def sextet? (c : Char) : Option Nat :=
  if 'A' ≤ c ∧ c ≤ 'Z' then some (c.toNat - 65)
  else if 'a' ≤ c ∧ c ≤ 'z' then some (c.toNat - 71)
  else if '0' ≤ c ∧ c ≤ '9' then some (c.toNat + 4)
  else if c = '+' then some 62
  else if c = '/' then some 63
  else none

/-- The alphabet character of a value below 64. -/
def symbol (n : Nat) : Char :=
  if n < 26 then Char.ofNat (n + 65)
  else if n < 52 then Char.ofNat (n + 71)
  else if n < 62 then Char.ofNat (n - 4)
  else if n = 62 then '+'
  else '/'

theorem sextet?_symbol {n : Nat} (h : n < 64) : sextet? (symbol n) = some n := by
  have : ∀ k : Fin 64, sextet? (symbol k) = some k.val := by decide
  exact this ⟨n, h⟩

theorem symbol_ne_pad {n : Nat} (h : n < 64) : symbol n ≠ '=' := by
  have : ∀ k : Fin 64, symbol k ≠ '=' := by decide
  exact this ⟨n, h⟩

/-! ### Encoding -/

def encode : List UInt8 → List Char
  | [] => []
  | [a] => [symbol (a.toNat / 4), symbol (a.toNat % 4 * 16), '=', '=']
  | [a, b] =>
    [symbol (a.toNat / 4), symbol (a.toNat % 4 * 16 + b.toNat / 16), symbol (b.toNat % 16 * 4), '=']
  | a :: b :: c :: bs =>
    symbol (a.toNat / 4) :: symbol (a.toNat % 4 * 16 + b.toNat / 16)
      :: symbol (b.toNat % 16 * 4 + c.toNat / 64) :: symbol (c.toNat % 64) :: encode bs

/-! ### Decoding -/

/-- The bytes of a list of sextets; bits that do not fill a byte are dropped. -/
def pack : List Nat → List UInt8
  | a :: b :: c :: d :: ds =>
    UInt8.ofNat (a * 4 + b / 16) :: UInt8.ofNat (b % 16 * 16 + c / 4)
      :: UInt8.ofNat (c % 4 * 64 + d) :: pack ds
  | [a, b, c] => [UInt8.ofNat (a * 4 + b / 16), UInt8.ofNat (b % 16 * 16 + c / 4)]
  | [a, b] => [UInt8.ofNat (a * 4 + b / 16)]
  | _ => []

/-- The sextets up to the first `=`, and the text from there on. -/
def readData : List Char → Except Offence (List Nat × List Char)
  | [] => .ok ([], [])
  | c :: cs =>
    if c = '=' then .ok ([], c :: cs)
    else match sextet? c with
      | none => .error .foreign
      | some d => (readData cs).map fun r => (d :: r.1, r.2)

/-- Reads padding that is complete at the `missing`-th `=`; `none` is never complete. Tells whether
it was completed. -/
def readPadding (missing : Option Nat) : List Char → Except Offence Bool
  | [] => .ok false
  | c :: cs =>
    if c = '=' then match missing with
      | some 1 => if cs = [] then .ok true else .error .excessAfterPadding
      | m => readPadding (m.map (· - 1)) cs
    else if (sextet? c).isSome then .error .dataAfterPadding
    else .error .foreign

/-- The number of `=` that complete a text of `n` alphabet characters, where padding can. -/
def missingPadding (n : Nat) : Option Nat :=
  if n % 4 = 2 then some 2 else if n % 4 = 3 then some 1 else none

/-- The bytes that a base64 text spells. -/
def decode (cs : List Char) : Except Offence (List UInt8) :=
  if cs.head? = some '=' then .error .leadingPadding
  else do
    let (ds, rest) ← readData cs
    let complete ← readPadding (missingPadding ds.length) rest
    if complete ∨ ds.length % 4 = 0 then .ok (pack ds)
    else if ds.length % 4 = 1 then .error (.loneCharacter ds.length)
    else .error .incompletePadding

end StreamRelay.Base64
