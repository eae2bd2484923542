import StreamRelay.Settings.Dotenv
import StreamRelay.Value

/-!
# Settings on a command line

A command line is a list of words. A setting is given as `--name=value`, or as `--name` before the
word that is its value; the last one of a name counts, and words that are neither are skipped.
-/

namespace StreamRelay.Settings

/-- How the words of a command line are read. -/
structure CommandLine where
  words : List String
  /-- What stands before the name of a setting. -/
  stem : String
  /-- Names are written with `-` for `_`. -/
  usesDashes : Bool
  /-- Nothing is read as a list or a dictionary, and null has a name of its own. -/
  isPlain : Bool
  /-- The text that stands for null, if it is not the usual one. -/
  nullText : Option String
deriving DecidableEq, Repr

namespace CommandLine

def empty : CommandLine := ⟨[], "", false, false, none⟩

def sign : String := "--"

def flag (l : CommandLine) (name : String) : String :=
  let name := if l.usesDashes then name.map fun c => if c = '_' then '-' else c else name
  sign ++ l.stem ++ name

/-- A word is a negative number. -/
def isNegative (cs : List Char) : Bool :=
  match cs with
  | '-' :: cs =>
    let rest := cs.dropWhile Char.isDigit
    (rest = [] && cs ≠ [])
      || (rest.head? = some '.' && rest.drop 1 ≠ [] && (rest.drop 1).all Char.isDigit)
  | _ => false

/-- A word can be the value of the flag before it. -/
def isValue (word : String) : Bool :=
  let cs := word.toList
  cs.head? ≠ some '-' || cs.length = 1 || isNegative cs || cs.contains ' '

/-- The flags and values of the words; `fold` brings flags into the form in which they are
compared. -/
def bindings (fold : String → String) : List String → List Dotenv.Binding
  | [] => []
  | word :: rest =>
    let flag := String.ofList (word.toList.takeWhile (· ≠ '='))
    match word.toList.dropWhile (· ≠ '=') with
    | _ :: value => (fold flag, some (String.ofList value)) :: bindings fold rest
    | [] =>
      match rest with
      | value :: rest =>
        if sign.isPrefixOf flag && isValue value then
          (fold flag, some value) :: bindings fold rest
        else bindings fold (value :: rest)
      | [] => []

def null (l : CommandLine) : String := l.nullText.getD (if l.isPlain then "None" else "null")

def find? (l : CommandLine) (fold : String → String) (name : String) : Option Value :=
  (Dotenv.known? (fold (l.flag name)) (bindings fold l.words).reverse).join.map fun s =>
    if s = l.null then .null else .text s

end CommandLine

end StreamRelay.Settings
