import StreamRelay.Text.Printable

/-!
# Quoted texts and byte strings

A text is quoted with apostrophes, or with quotation marks where it holds an apostrophe and no
quotation mark. The quote in use, the backslash and every character without a visible form are
escaped; a byte string has the escapes of its bytes, and a buffer escapes every apostrophe.
-/

namespace StreamRelay.Text

def apostrophe : Char := Char.ofNat 39

def quotationMark : Char := Char.ofNat 34

def enclosing (cs : List Char) : Char :=
  if cs.contains apostrophe && !cs.contains quotationMark then quotationMark else apostrophe

/-- `n` in hexadecimal, with at least `width` digits. -/
def hex (width n : Nat) : List Char :=
  let ds := Nat.toDigits 16 n
  List.replicate (width - ds.length) '0' ++ ds

/-- The escapes shared by texts and byte strings; `none` for a character that has none. -/
def commonEscape? (mark c : Char) : Option (List Char) :=
  if c = mark ∨ c = '\\' then some ['\\', c]
  else if c = '\t' then some ['\\', 't']
  else if c = '\n' then some ['\\', 'n']
  else if c = '\r' then some ['\\', 'r']
  else none

/-- A character inside a text enclosed by `mark`. -/
def escape (mark c : Char) : List Char :=
  match commonEscape? mark c with
  | some e => e
  | none =>
    if isPrintable c then [c]
    else if c.toNat < 0x100 then '\\' :: 'x' :: hex 2 c.toNat
    else if c.toNat < 0x10000 then '\\' :: 'u' :: hex 4 c.toNat
    else '\\' :: 'U' :: hex 8 c.toNat

/-- A byte inside a byte string enclosed by `mark`. -/
def escapeByte (mark : Char) (b : UInt8) : List Char :=
  let c := Char.ofNat b.toNat
  match commonEscape? mark c with
  | some e => e
  | none => if 32 ≤ b.toNat ∧ b.toNat < 127 then [c] else '\\' :: 'x' :: hex 2 b.toNat

def quoted (s : String) : String :=
  let cs := s.toList
  let mark := enclosing cs
  String.ofList (mark :: (cs.flatMap (escape mark) ++ [mark]))

/-- A byte string between its marks, in which `escaped` is the mark that is escaped. -/
def enclosedBytes (mark escaped : Char) (bs : List UInt8) : String :=
  String.ofList ('b' :: mark :: (bs.flatMap (escapeByte escaped) ++ [mark]))

def enclosingBytes (bs : List UInt8) : Char := enclosing (bs.map fun b => Char.ofNat b.toNat)

def quotedBytes (bs : List UInt8) : String :=
  let mark := enclosingBytes bs
  enclosedBytes mark mark bs

/-- A quoted buffer, under the name of its type; apostrophes are escaped between either marks. -/
def quotedBuffer (bs : List UInt8) : String :=
  "bytearray(" ++ enclosedBytes (enclosingBytes bs) apostrophe bs ++ ")"

end StreamRelay.Text
