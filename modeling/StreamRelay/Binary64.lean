/-!
# Double-precision numbers

A finite number is a sign and a whole number of units, the unit being the smallest positive number
`2 ^ -1074`. Sums, products and comparisons are then exact on natural numbers, and rounding is one
function: `nearest` gives the representable number of units closest to a quotient, a half going to
the even neighbour.
-/

namespace StreamRelay

/-- A double-precision number; `finite` counts units of `2 ^ -1074`. -/
inductive Binary64 where
  | nan
  | infinite (negative : Bool)
  | finite (negative : Bool) (units : Nat)
deriving DecidableEq, Repr

namespace Binary64

/-- The number of units in one. -/
def one : Nat := Nat.pow 2 1074

/-- The number of units of the first magnitude that is out of range, `2 ^ 1024`. -/
def limit : Nat := Nat.pow 2 2098

/-- The gap between representable neighbours at `n` units: one unit up to `2 ^ 53`, from there on
doubled at each power of two. -/
def gap (n : Nat) : Nat := Nat.pow 2 (n.log2 - 52)

/-- The whole number nearest to `num / den`; a half goes to the even neighbour. -/
def roundDiv (num den : Nat) : Nat :=
  let q := num / den
  let r := 2 * (num % den)
  if r < den ∨ (r = den ∧ q % 2 = 0) then q else q + 1

/-- The representable number of units nearest to `num / den` units. -/
def nearest (num den : Nat) : Nat :=
  let g := gap (num / den)
  roundDiv num (den * g) * g

/-- The number nearest to `num / den` units, infinite when out of range. -/
def ofRatio (negative : Bool) (num den : Nat) : Binary64 :=
  let n := nearest num den
  if n < limit then .finite negative n else .infinite negative

/-- The signed number of units of a finite number. -/
def units? : Binary64 → Option Int
  | .finite negative n => some (if negative then -(n : Int) else n)
  | _ => none

/-- The numeric order's equality: `nan` equals nothing and the two zeros are equal. -/
def equals : Binary64 → Binary64 → Bool
  | .infinite a, .infinite b => a == b
  | .finite a m, .finite b n => m == n && (a == b || m == 0)
  | _, _ => false

def isZero : Binary64 → Bool
  | .finite _ n => n == 0
  | _ => false

/-! ### Arithmetic -/

def neg : Binary64 → Binary64
  | .nan => .nan
  | .infinite s => .infinite !s
  | .finite s n => .finite (!s) n

/-- The rounded sum; a sum of opposite numbers is the positive zero. -/
def add : Binary64 → Binary64 → Binary64
  | .nan, _ => .nan
  | _, .nan => .nan
  | .infinite s, .infinite t => if s = t then .infinite s else .nan
  | .infinite s, .finite _ _ => .infinite s
  | .finite _ _, .infinite t => .infinite t
  | .finite s m, .finite t n =>
    if s = t then ofRatio s (m + n) 1
    else if m = n then .finite false 0
    else if n < m then ofRatio s (m - n) 1
    else ofRatio t (n - m) 1

def sub (x y : Binary64) : Binary64 := x.add y.neg

/-- The rounded product with a whole number other than zero. -/
def scale (k : Nat) : Binary64 → Binary64
  | .finite s n => ofRatio s (n * k) 1
  | x => x

/-- The number nearest to the multiple of `10 ^ -places` that is nearest to the given number. -/
def roundPlaces (places : Nat) : Binary64 → Binary64
  | .finite s n =>
    let p := Nat.pow 10 places
    ofRatio s (roundDiv (n * p) one * one) p
  | x => x

end Binary64

end StreamRelay
