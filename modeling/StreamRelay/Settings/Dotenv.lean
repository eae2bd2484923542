import StreamRelay.Text.Blank

/-!
# Settings files

A settings file has a binding `NAME=value` per line, with an optional `export` before it. A value
is bare, up to a comment, or quoted; `#` begins a comment. A line that is no binding is skipped. In
a value a name in braces after a dollar sign stands for the value it has so far, or for what follows
its `:-`.
-/

namespace StreamRelay.Settings.Dotenv

/-- A name with its value, none where the name stands alone. -/
abbrev Binding := String × Option String

def single : Char := Char.ofNat 39

def double : Char := Char.ofNat 34

/-! ### Parts of a line -/

/-- The rest after the word `export` and the blanks that follow it. -/
def skipExport (cs : List Char) : List Char :=
  let word := "export".toList
  let rest := cs.drop word.length
  if cs.take word.length = word ∧ rest.head?.any Text.isInnerBlank then
    rest.dropWhile Text.isInnerBlank
  else cs

/-- The text up to a closing mark and the rest after the mark. A backslash keeps the next character,
so that a mark after it does not close. -/
def readQuoted? (mark : Char) : List Char → Option (List Char × List Char)
  | [] => none
  | '\\' :: c :: cs => (readQuoted? mark cs).map fun r => ('\\' :: c :: r.1, r.2)
  | c :: cs =>
    if c = mark then some ([], cs) else (readQuoted? mark cs).map fun r => (c :: r.1, r.2)

/-- What an escaped character stands for. -/
def escaped? (mark c : Char) : Option Char :=
  if c = '\\' ∨ c = single then some c
  else if mark = single then none
  else match c with
    | 'a' => some (Char.ofNat 7)
    | 'b' => some (Char.ofNat 8)
    | 'f' => some (Char.ofNat 12)
    | 'n' => some '\n'
    | 'r' => some '\r'
    | 't' => some '\t'
    | 'v' => some (Char.ofNat 11)
    | c => if c = double then some c else none

/-- A quoted value with its escapes replaced. -/
def unescape (mark : Char) : List Char → List Char
  | '\\' :: c :: cs =>
    match escaped? mark c with
    | some d => d :: unescape mark cs
    | none => '\\' :: unescape mark (c :: cs)
  | c :: cs => c :: unescape mark cs
  | [] => []
termination_by cs => cs.length

/-- A bare value up to the comment after a blank. -/
def dropComment : List Char → List Char
  | c :: '#' :: cs => if Text.isBlank c then [] else c :: dropComment ('#' :: cs)
  | c :: cs => c :: dropComment cs
  | [] => []

/-- The value at the beginning of a text, and the rest; blanks before it belong to no value, but
make a comment of a `#` that follows them. -/
def readValue? (cs : List Char) : Option (List Char × List Char) :=
  let bare := Text.trimEnd (dropComment (cs.takeWhile fun c => !Text.isLineEnd c))
  let unquoted := (bare.dropWhile Text.isBlank, cs.dropWhile fun c => !Text.isLineEnd c)
  match cs.dropWhile Text.isInnerBlank with
  | [] => some unquoted
  | c :: rest =>
    if c = single ∨ c = double then (readQuoted? c rest).map fun r => (unescape c r.1, r.2)
    else some unquoted

def readName? (cs : List Char) : Option (List Char × List Char) :=
  match cs with
  | [] => none
  | c :: rest =>
    if c = single then
      let name := rest.takeWhile (· ≠ single)
      match rest.dropWhile (· ≠ single) with
      | _ :: after => if name = [] then none else some (name, after)
      | [] => none
    else
      let inName (c : Char) : Bool := c ≠ '=' && c ≠ '#' && !Text.isBlank c
      let name := cs.takeWhile inName
      if name = [] then none else some (name, cs.dropWhile inName)

/-- The rest after the blanks and the comment at the end of a line, or where the line does not
end. -/
def endLine (cs : List Char) : Except (List Char) (List Char) :=
  let rest := cs.dropWhile Text.isInnerBlank
  let rest := if rest.head? = some '#' then rest.dropWhile fun c => !Text.isLineEnd c else rest
  match rest with
  | [] => .ok []
  | c :: after => if Text.isLineEnd c then .ok after else .error rest

/-- The binding at the beginning of a text, if that is not a comment, and the rest; or where no
binding can be read on. -/
def readBinding (cs : List Char) : Except (List Char) (Option Binding × List Char) :=
  if cs.head? = some '#' then do return (none, ← endLine cs)
  else
    let start := skipExport cs
    match readName? start with
    | none => .error start
    | some (name, rest) =>
      let rest := rest.dropWhile Text.isInnerBlank
      match rest with
      | '=' :: after =>
        match readValue? after with
        | none => .error after
        | some (value, rest) => do
          return (some (String.ofList name, some (String.ofList value)), ← endLine rest)
      | _ => do return (some (String.ofList name, none), ← endLine rest)

/-- The rest after the end of the line. -/
def skipLine (cs : List Char) : List Char := (cs.dropWhile fun c => !Text.isLineEnd c).drop 1

/-- The bindings of a text; each reading leaves a shorter rest. -/
def readBindings (cs : List Char) : List Binding :=
  match cs.dropWhile Text.isBlank with
  | [] => []
  | start =>
    let (binding?, rest) := match readBinding start with
      | .ok r => r
      | .error stuck => (none, skipLine stuck)
    if rest.length < cs.length then binding?.toList ++ readBindings rest else binding?.toList
termination_by cs.length

/-! ### Names in values -/

def known? (name : String) (bindings : List Binding) : Option (Option String) :=
  (bindings.find? (·.1 = name)).map Prod.snd

/-- The name in braces at the beginning of a text, what stands after its `:-`, and the rest. -/
def readReference? (cs : List Char) : Option (String × List Char × List Char) :=
  let inName (c : Char) : Bool := c ≠ '\x7d' && c ≠ ':'
  let name := String.ofList (cs.takeWhile inName)
  match cs.dropWhile inName with
  | '\x7d' :: rest => some (name, [], rest)
  | ':' :: '-' :: cs =>
    match cs.dropWhile (· ≠ '\x7d') with
    | _ :: rest => some (name, cs.takeWhile (· ≠ '\x7d'), rest)
    | [] => none
  | _ => none

/-- A value with the names in braces replaced; an unknown one is empty, or what it says itself. -/
def expand (bindings : List Binding) (cs : List Char) : List Char :=
  match cs with
  | '$' :: '\x7b' :: rest =>
    match readReference? rest with
    | some (name, otherwise, tail) =>
      let value := match known? name bindings with
        | some v => (v.getD "").toList
        | none => otherwise
      if tail.length < rest.length + 2 then value ++ expand bindings tail else value
    | none => '$' :: expand bindings ('\x7b' :: rest)
  | c :: cs => c :: expand bindings cs
  | [] => []
termination_by cs.length

/-- Sets the value of a name, which keeps its place. -/
def put (b : Binding) : List Binding → List Binding
  | [] => [b]
  | c :: cs => if c.1 = b.1 then b :: cs else c :: put b cs

/-- Adds a binding to those before it, with the names in its value replaced by what they stand for
so far, in the file or else in the environment. -/
def add (environment : List Binding) (before : List Binding) (b : Binding) : List Binding :=
  put (b.1, b.2.map fun v => String.ofList (expand (before ++ environment) v.toList)) before

/-- A text whose lines end in one way. -/
def unifyLineEnds : List Char → List Char
  | '\r' :: '\n' :: cs => '\n' :: unifyLineEnds cs
  | '\r' :: cs => '\n' :: unifyLineEnds cs
  | c :: cs => c :: unifyLineEnds cs
  | [] => []

/-- The mark of the byte order, which may stand in front of a text. -/
def byteOrderMark : Char := Char.ofNat 0xfeff

def dropMark (cs : List Char) : List Char := if cs.head? = some byteOrderMark then cs.drop 1 else cs

/-- The bindings of a file, each name at its first place with its last value. -/
def read (environment : List Binding) (text : String) : List Binding :=
  (readBindings (unifyLineEnds (dropMark text.toList))).foldl (add environment) []

end StreamRelay.Settings.Dotenv
