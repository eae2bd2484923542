import StreamRelay.Binary64

/-!
# Decimal texts of double-precision numbers

`ofText?` reads a decimal text and rounds it once. `toText` writes the fewest digits that read back
to the same number and, of those, the nearest; numbers from `10 ^ -4` up to `10 ^ 16` are written
positionally, the others with an exponent of at least two digits.
-/

namespace StreamRelay.Binary64

/-! ### Reading -/

/-- The whole number that a list of decimal digits spells. -/
def spell (ds : List Char) : Nat := ds.foldl (fun n c => 10 * n + (c.toNat - 48)) 0

/-- The number nearest to `n * 10 ^ e`. Magnitudes of more than 310 digits are out of range, and
those below `10 ^ -330` round to zero. -/
def ofScientific (negative : Bool) (n : Nat) (e : Int) : Binary64 :=
  let size : Int := (Nat.toDigits 10 n).length + e
  if n = 0 then .finite negative 0
  else if size > 310 then .infinite negative
  else if size < -330 then .finite negative 0
  else match e with
    | .ofNat k => ofRatio negative (n * Nat.pow 10 k * one) 1
    | .negSucc k => ofRatio negative (n * one) (Nat.pow 10 (k + 1))

/-- The exponent that follows the digits: nothing, or an `e` with an optional sign and digits. -/
def readExponent? : List Char → Option Int
  | [] => some 0
  | c :: cs =>
    if c = 'e' ∨ c = 'E' then
      let signed : Bool × List Char := match cs with
        | '-' :: ds => (true, ds)
        | '+' :: ds => (false, ds)
        | ds => (false, ds)
      if signed.2 ≠ [] ∧ signed.2.all Char.isDigit then
        some (if signed.1 then -(spell signed.2 : Int) else spell signed.2)
      else none
    else none

/-- The unsigned magnitude that a text spells, given its sign. -/
def readMagnitude? (negative : Bool) (cs : List Char) : Option Binary64 :=
  if cs = "inf".toList then some (.infinite negative)
  else if cs = "nan".toList then some .nan
  else
    let whole := cs.takeWhile Char.isDigit
    let rest := cs.dropWhile Char.isDigit
    let fraction := match rest with
      | '.' :: fs => fs.takeWhile Char.isDigit
      | _ => []
    let rest := match rest with
      | '.' :: fs => fs.dropWhile Char.isDigit
      | _ => rest
    if whole ++ fraction = [] then none
    else (readExponent? rest).map fun e =>
      ofScientific negative (spell (whole ++ fraction)) (e - fraction.length)

/-- The number that a decimal text spells. -/
def ofText? (s : String) : Option Binary64 :=
  match s.toList with
  | '-' :: cs => readMagnitude? true cs
  | '+' :: cs => readMagnitude? false cs
  | cs => readMagnitude? false cs

/-! ### Writing -/

/-- The exponent of the leading decimal digit of `n` units, for a positive `n`. -/
def leading (n : Nat) : Int := (Nat.toDigits 10 (n * Nat.pow 10 400 / one)).length - 401

/-- The number `c * 10 ^ s` of the decimal grid reads back to `n` units. -/
def readsBack (n c : Nat) (s : Int) : Bool :=
  match s with
  | .ofNat k => nearest (c * Nat.pow 10 k * one) 1 == n
  | .negSucc k => nearest (c * one) (Nat.pow 10 (k + 1)) == n

/-- The nearer of the two neighbours of `n` units on the grid of multiples of `10 ^ s` that reads
back, if one does; of two equally near the even one. -/
def onGrid? (n : Nat) (s : Int) : Option Nat :=
  let num := match s with
    | .ofNat _ => n
    | .negSucc k => n * Nat.pow 10 (k + 1)
  let den := match s with
    | .ofNat k => one * Nat.pow 10 k
    | .negSucc _ => one
  let near := roundDiv num den
  let far := if near = num / den then near + 1 else near - 1
  if readsBack n near s then some near else if readsBack n far s then some far else none

/-- The digits and the exponent of the last digit of the first grid with a hit, among those of
`p`, `p + 1`, … digits, `tries` of them. -/
def shortestFrom (n : Nat) (top : Int) : Nat → Nat → Nat × Int
  | 0, p => (roundDiv n one, top - p + 1)
  | tries + 1, p =>
    let s := top - p + 1
    match onGrid? n s with
    | some c => (c, s)
    | none => shortestFrom n top tries (p + 1)

/-- The fewest decimal digits that read back to `n` units; 17 always do. -/
def shortest (n : Nat) : Nat × Int := shortestFrom n (leading n) 17 1

def trimZeros (ds : List Char) : List Char := (ds.reverse.dropWhile (· = '0')).reverse

/-- A positional numeral: `x` is the exponent of the leading digit, and the fraction has at least
one digit. -/
def positional (ds : List Char) (x : Int) : List Char :=
  match x with
  | .ofNat k =>
    let whole := ds.take (k + 1) ++ List.replicate (k + 1 - ds.length) '0'
    let fraction := ds.drop (k + 1)
    whole ++ '.' :: (if fraction = [] then ['0'] else fraction)
  | .negSucc k => '0' :: '.' :: (List.replicate k '0' ++ ds)

/-- A numeral with an exponent, whose sign is always written. -/
def exponential (ds : List Char) (x : Int) : List Char :=
  let mantissa := match ds with
    | d :: f :: fs => d :: '.' :: f :: fs
    | _ => ds
  let e := Nat.toDigits 10 x.natAbs
  mantissa ++ ['e', if x < 0 then '-' else '+'] ++ List.replicate (2 - e.length) '0' ++ e

/-- The text of a magnitude of `n` units. -/
def magnitudeText (n : Nat) : List Char :=
  if n = 0 then ['0', '.', '0']
  else
    let (c, s) := shortest n
    let ds := Nat.toDigits 10 c
    let x := s + ds.length - 1
    if -4 ≤ x ∧ x < 16 then positional (trimZeros ds) x else exponential (trimZeros ds) x

/-- The shortest text that reads back to the number. -/
def toText : Binary64 → String
  | .nan => "nan"
  | .infinite s => if s then "-inf" else "inf"
  | .finite s n => String.ofList (if s then '-' :: magnitudeText n else magnitudeText n)

end StreamRelay.Binary64
