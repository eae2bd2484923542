import StreamRelay.Settings.CommandLine
import StreamRelay.Text.Charset
import StreamRelay.Text.Lower

/-!
# Reading the sources of settings

The environment and the settings file are sources of bindings, under names in letters of either
case. Options among the arguments change how they are read: without the file or in another charset,
with the case of names, without empty values, with a stem before each name, or with a text that
stands for null. They may also bring a command line.
-/

namespace StreamRelay.Settings

/-- How the sources are read. -/
structure Reading where
  usesFile : Bool
  /-- The charset of the file, if it is known. -/
  charset : Option Text.Charset
  exactCase : Bool
  skipsEmpty : Bool
  /-- What stands before the name of a setting. -/
  stem : String
  /-- The stem counts. -/
  usesStem : Bool
  /-- The text that stands for null, if there is one. -/
  nullText : Option String
  line : CommandLine
deriving DecidableEq, Repr

namespace Reading

def default : Reading := ⟨true, some .utf8, false, false, "", true, none, .empty⟩

/-! ### Options -/

/-- A text is a path to the settings file: it names it, in the directory at hand. -/
def isFilePath (s : String) : Bool :=
  let parts := (s.splitOn "/").filter fun p => p ≠ "" && p ≠ "."
  parts = [".env"] && s.toList.head? ≠ some '/'

/-- A value is a path to the settings file, or one of several is. -/
def namesFile : Value → Bool
  | .text s => isFilePath s
  | v => ((v.items?).getD []).any fun
    | .text s => isFilePath s
    | _ => false

def texts : Value → List String
  | .list vs => vs.filterMap fun
    | .text s => some s
    | _ => none
  | _ => []

/-- The reading with an option set. Null leaves all as it is, but as the path of the file, where it
stands for none. The stem counts for variables or for all names, and for nothing else. -/
def set (r : Reading) (option : String) (v : Value) : Reading :=
  match option, v with
  | "_env_file", v => { r with usesFile := namesFile v }
  | _, .null => r
  | "_case_sensitive", v => { r with exactCase := v.isTruthy }
  | "_env_ignore_empty", v => { r with skipsEmpty := v.isTruthy }
  | "_env_file_encoding", .text s => { r with charset := Text.Charset.ofName? s }
  | "_env_prefix", .text s => { r with stem := s }
  | "_env_prefix_target", .text s => { r with usesStem := s = "variable" || s = "all" }
  | "_env_prefix_target", _ => { r with usesStem := false }
  | "_env_parse_none_str", .text s => { r with nullText := some s }
  | "_cli_parse_args", v => { r with line := { r.line with words := texts v } }
  | "_cli_prefix", .text s => { r with line := { r.line with stem := s ++ "." } }
  | "_cli_kebab_case", v => { r with line := { r.line with usesDashes := v.isTruthy } }
  | "_cli_avoid_json", v => { r with line := { r.line with isPlain := v.isTruthy } }
  | "_cli_parse_none_str", .text s => { r with line := { r.line with nullText := some s } }
  | _, _ => r

/-- The names of the options; those that `set` does not know make no difference to settings that
are texts. -/
def options : List String := [
  "_env_file", "_env_file_depth", "_env_file_encoding", "_case_sensitive", "_env_ignore_empty",
  "_env_prefix", "_env_prefix_target", "_env_parse_none_str", "_env_nested_delimiter",
  "_env_nested_max_split", "_env_parse_enums", "_nested_model_default_partial_update",
  "_secrets_dir", "_build_sources", "_cli_prog_name", "_cli_parse_args", "_cli_settings_source",
  "_cli_parse_none_str", "_cli_hide_none_type", "_cli_avoid_json", "_cli_enforce_required",
  "_cli_use_class_docs_for_groups", "_cli_exit_on_error", "_cli_prefix", "_cli_flag_prefix_char",
  "_cli_implicit_flags", "_cli_ignore_unknown_args", "_cli_kebab_case", "_cli_shortcuts",
  "_cli_show_env_vars"]

/-- The reading that the options among the arguments ask for. -/
def ofArguments (arguments : List (String × Value)) : Reading :=
  arguments.foldl (fun r a => r.set a.1 a.2) default

/-! ### Sources -/

/-- A name as it is compared. -/
def fold (r : Reading) (name : String) : String := if r.exactCase then name else Text.lower name

/-- The name of a setting in a source. -/
def sourceName (r : Reading) (name : String) : String :=
  r.fold (if r.usesStem then r.stem ++ name else name)

/-- The text of the file, where it is read and stands for one. -/
def fileText? (r : Reading) (file : Option String) : Option String :=
  if r.usesFile then r.charset.bind fun c => file.bind c.read? else none

/-- The bindings of a source under the names as they are compared; of two spellings the later one
counts. -/
def foldNames (r : Reading) (bs : List Dotenv.Binding) : List Dotenv.Binding :=
  (bs.filter fun b => !(r.skipsEmpty && b.2 == some "")).foldl
    (fun acc b => Dotenv.put (r.fold b.1, b.2) acc) []

def find? (r : Reading) (source : List Dotenv.Binding) (name : String) : Option Value :=
  (Dotenv.known? (r.sourceName name) source).join.map fun s =>
    if r.nullText = some s then .null else .text s

end Reading

end StreamRelay.Settings
