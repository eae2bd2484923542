import StreamRelay.Base64
import StreamRelay.Text.Charset.Bytes

/-!
# Charsets

How bytes stand for a text. `read?` takes the bytes of a text in UTF-8 and reads them in another
charset; it gives nothing where they stand for no text there. A charset is known by several names,
in letters of either case and with any signs between the words. Charsets of several bytes are read
on ASCII alone.
-/

namespace StreamRelay.Text

/-- The charsets. Three of them spell characters beyond ASCII in ASCII. -/
inductive Charset where
  | utf8
  /-- UTF-8 with a mark in front that is no part of the text. -/
  | utf8Marked
  | ascii
  | latin1
  /-- A table of characters in two halves. -/
  | bytes (lower upper : String)
  | utf7
  /-- Latin 1 with escapes: all of them, or code points only. -/
  | escapes (all : Bool)
deriving DecidableEq, Repr

namespace Charset

/-! ### Names -/

/-- A list without the repetitions of `a` that follow each other. -/
def squeeze (a : Char) : List Char → List Char
  | c :: d :: cs => if c = a ∧ d = a then squeeze a (d :: cs) else c :: squeeze a (d :: cs)
  | cs => cs

/-- The words of a name in small letters, with one `_` between them. -/
def key (name : String) : String :=
  let cs := name.toList.map fun c => if c.isAlphanum || c = '.' then c.toLower else '_'
  let cs := (squeeze '_' cs).dropWhile (· = '_')
  String.ofList (cs.reverse.dropWhile (· = '_')).reverse

/-- The charsets that are no mere table, with their names, the proper one first. -/
def named : List (Charset × List String) := [
  (.utf8, ["utf_8", "cp65001", "u8", "utf", "utf8", "utf8_ucs2", "utf8_ucs4"]),
  (.utf8Marked, ["utf_8_sig"]),
  (.ascii, ["ascii", "646", "ansi_x3.4_1968", "ansi_x3.4_1986", "ansi_x3_4_1968", "cp367",
    "csascii", "ibm367", "iso646_us", "iso_646.irv_1991", "iso_ir_6", "us", "us_ascii"]),
  (.latin1, ["latin_1", "8859", "cp819", "csisolatin1", "ibm819", "iso8859", "iso8859_1",
    "iso_8859_1", "iso_8859_1_1987", "iso_ir_100", "l1", "latin", "latin1", "charmap"]),
  (.utf7, ["utf_7", "u7", "unicode_1_1_utf_7", "utf7"]),
  (.escapes true, ["unicode_escape"]),
  (.escapes false, ["raw_unicode_escape"])]

/-- The charsets of several bytes that read ASCII as it is: their names, the proper one first. -/
def wide : List (List String) := [
  ["big5", "big5_tw", "csbig5", "x_mac_trad_chinese"],
  ["big5hkscs", "big5_hkscs", "hkscs"],
  ["cp932", "932", "ms932", "ms_kanji", "mskanji"],
  ["cp949", "949", "ms949", "uhc"],
  ["cp950", "950", "ms950"],
  ["euc_jis_2004", "euc_jis2004", "eucjis2004", "jisx0213"],
  ["euc_jisx0213", "eucjisx0213"],
  ["euc_jp", "eucjp", "u_jis", "ujis"],
  ["euc_kr", "euckr", "korean", "ks_c_5601", "ks_c_5601_1987", "ks_x_1001", "ksc5601", "ksx1001",
    "x_mac_korean"],
  ["gb18030", "gb18030_2000"],
  ["gb2312", "chinese", "csiso58gb231280", "euc_cn", "euccn", "eucgb2312_cn", "gb2312_1980",
    "gb2312_80", "iso_ir_58", "x_mac_simp_chinese"],
  ["gbk", "936", "cp936", "ms936"],
  ["iso2022_jp", "csiso2022jp", "iso2022jp", "iso_2022_jp"],
  ["iso2022_jp_1", "iso2022jp_1", "iso_2022_jp_1"],
  ["iso2022_jp_2", "iso2022jp_2", "iso_2022_jp_2"],
  ["iso2022_jp_2004", "iso2022jp_2004", "iso_2022_jp_2004"],
  ["iso2022_jp_3", "iso2022jp_3", "iso_2022_jp_3"],
  ["iso2022_jp_ext", "iso2022jp_ext", "iso_2022_jp_ext"],
  ["iso2022_kr", "csiso2022kr", "iso2022kr", "iso_2022_kr"],
  ["johab", "cp1361", "ms1361"],
  ["shift_jis", "csshiftjis", "s_jis", "shiftjis", "sjis", "x_mac_japanese"],
  ["idna"]]

/-- The tables of the charsets of several bytes that read two signs of ASCII as others, and of one
where the tilde begins what is no ASCII. -/
def wideTables : List ByteCharset :=
  let ascii (backslash tilde : Char) := ByteCharset.ascii.map fun c =>
    if c = '\\' then backslash else if c = '~' then tilde else c
  [⟨["shift_jis_2004", "s_jis_2004", "shiftjis2004", "sjis_2004"], ascii '¥' '‾', ""⟩,
    ⟨["shift_jisx0213", "s_jisx0213", "shiftjisx0213", "sjisx0213"], ascii '¥' '‾', ""⟩,
    ⟨["hz", "hz_gb", "hz_gb_2312", "hzgb"], ascii '\\' (Char.ofNat 0xfffd), ""⟩]

/-- One of the names is the one that is looked up. In a name that is not the proper one a dot counts
as a sign between words too. -/
def answersTo (names : List String) (key : String) : Bool :=
  names.contains key
    || (names.drop 1).contains (key.map fun c => if c = '.' then '_' else c)

def ofName? (name : String) : Option Charset :=
  let key := key name
  match named.find? fun c => answersTo c.2 key with
  | some (c, _) => some c
  | none =>
    if wide.any fun names => answersTo names key then some .ascii
    else ((ByteCharset.all ++ wideTables).find? fun c => answersTo c.names key).map fun c =>
      .bytes c.lower c.upper

/-! ### Seven bits -/

/-- The units of 16 bits in a run of sextets, whose last bits are zero and fill no sextet. -/
def units? (sextets : List Nat) : Option (List Nat) :=
  let n := sextets.foldl (fun n s => 64 * n + s) 0
  let count := 6 * sextets.length / 16
  let left := 6 * sextets.length % 16
  if left < 6 ∧ n % Nat.pow 2 left = 0 then
    some ((List.range count).map fun i => n / Nat.pow 2 (left + 16 * (count - 1 - i)) % 0x10000)
  else none

/-- The characters of units; beyond the first plane a character takes two. -/
def ofUnits? : List Nat → Option (List Char)
  | [] => some []
  | u :: v :: us =>
    if 0xd800 ≤ u ∧ u < 0xdc00 then
      if 0xdc00 ≤ v ∧ v < 0xe000 then
        (ofUnits? us).map (Char.ofNat (0x10000 + (u - 0xd800) * 0x400 + (v - 0xdc00)) :: ·)
      else none
    else if 0xdc00 ≤ u ∧ u < 0xe000 then none
    else (ofUnits? (v :: us)).map (Char.ofNat u :: ·)
  | [u] => if 0xd800 ≤ u ∧ u < 0xe000 then none else some [Char.ofNat u]

/-- The characters at the beginning of a text in seven bits, and the rest: an ASCII character, or
a run of sextets between a plus sign and, where it is there, a minus sign. -/
def readSeven? : List Char → Option (List Char × List Char)
  | '+' :: '-' :: cs => some (['+'], cs)
  | '+' :: cs =>
    let sextets := cs.map Base64.sextet?
    let run := (sextets.takeWhile Option.isSome).filterMap id
    let rest := cs.drop run.length
    if run = [] ∧ rest ≠ [] then none
    else (units? run).bind fun us => (ofUnits? us).map fun here =>
      (here, if rest.head? = some '-' then rest.drop 1 else rest)
  | c :: cs => if c.toNat < 128 then some ([c], cs) else none
  | [] => none

/-! ### Escapes -/

def value (base : Nat) (ds : List Char) : Nat :=
  ds.foldl (fun n c => base * n + (if c.isDigit then c.toNat - 48 else c.toLower.toNat - 87)) 0

def isHexDigit (c : Char) : Bool :=
  c.isDigit || ('a' ≤ c && c ≤ 'f') || ('A' ≤ c && c ≤ 'F')

/-- The character of a code point in `width` digits, and the rest. -/
def readPoint? (width : Nat) (cs : List Char) : Option (List Char × List Char) :=
  let ds := cs.take width
  if ds.length = width ∧ ds.all isHexDigit ∧ (value 16 ds).isValidChar then
    some ([Char.ofNat (value 16 ds)], cs.drop width)
  else none

/-- What a letter after a backslash stands for. -/
def escaped? : Char → Option Char
  | '\\' => some '\\'
  | 'a' => some (Char.ofNat 7)
  | 'b' => some (Char.ofNat 8)
  | 'f' => some (Char.ofNat 12)
  | 'n' => some '\n'
  | 'r' => some '\r'
  | 't' => some '\t'
  | 'v' => some (Char.ofNat 11)
  | c => if c.toNat = 34 ∨ c.toNat = 39 then some c else none

/-- The characters at the beginning of a text with escapes, and the rest. -/
def readEscape? (all : Bool) : List Char → Option (List Char × List Char)
  | '\\' :: 'u' :: cs => readPoint? 4 cs
  | '\\' :: 'U' :: cs => readPoint? 8 cs
  | '\\' :: c :: cs =>
    if !all then some (['\\', c], cs)
    else if c = '\n' then some ([], cs)
    else if c = 'x' then readPoint? 2 cs
    else if c = 'N' then none
    else
      let octal := ((c :: cs).take 3).takeWhile fun c => '0' ≤ c && c ≤ '7'
      if octal ≠ [] then some ([Char.ofNat (value 8 octal)], (c :: cs).drop octal.length)
      else match escaped? c with
        | some d => some ([d], cs)
        | none => some (['\\', c], cs)
  | ['\\'] => if all then none else some (['\\'], [])
  | c :: cs => some ([c], cs)
  | [] => none

/-! ### Reading -/

/-- A text by a reader that takes some characters off its beginning. -/
def readAll? (step : List Char → Option (List Char × List Char)) (cs : List Char) :
    Option (List Char) :=
  match cs with
  | [] => some []
  | c :: cs =>
    match step (c :: cs) with
    | some (here, rest) =>
      if rest.length ≤ cs.length then (readAll? step rest).map (here ++ ·) else none
    | none => none
termination_by cs.length

/-- The bytes of a text in UTF-8, each as the character of its number. -/
def utf8Bytes (s : String) : List Char := s.toUTF8.toList.map fun b => Char.ofNat b.toNat

def ofByte? (table : List Char) (c : Char) : Option Char :=
  table[c.toNat]?.filter fun d => d.toNat ≠ 0xfffd

/-- The text that the bytes of `s` in UTF-8 stand for. -/
def read? (c : Charset) (s : String) : Option String :=
  match c with
  | utf8 => some s
  | utf8Marked =>
    some (if s.toList.head? = some (Char.ofNat 0xfeff) then String.ofList (s.toList.drop 1) else s)
  | ascii => if s.toList.all fun c => c.toNat < 128 then some s else none
  | latin1 => some (String.ofList (utf8Bytes s))
  | bytes lower upper =>
    ((utf8Bytes s).mapM (ofByte? (lower ++ upper).toList)).map String.ofList
  | utf7 => (readAll? readSeven? (utf8Bytes s)).map String.ofList
  | escapes all => (readAll? (readEscape? all) (utf8Bytes s)).map String.ofList

end Charset

end StreamRelay.Text
