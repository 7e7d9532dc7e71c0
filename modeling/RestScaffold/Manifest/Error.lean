import RestScaffold.Disk.Basic
import RestScaffold.Manifest.Body
import RestScaffold.Manifest.Names
import RestScaffold.Manifest.Shape
import RestScaffold.Toml.Reader

/-! # Why a manifest is refused

An error has a message and mostly a code. It may come with help, and with a label for the place in
the text that it is about.
-/
namespace RestScaffold

inductive TextFault where
  | notToml (cause : Toml.Malformed)
  | misshapen (error : ShapeError)
  /-- The span is where the name stands, if it was found. -/
  | badName (fault : NameFault) (span : Option Span)
  deriving DecidableEq, Repr

inductive ManifestError where
  | unreadable (path : Path) (fault : Fault)
  /-- The text of a file is at fault. -/
  | text (file : String) (fault : TextFault)
  | model (name : String) (fault : ModelFault)
  deriving DecidableEq, Repr

namespace TextFault

def message : TextFault → String
  | notToml _ => "failed to parse crudgen.toml"
  | misshapen _ => "failed to parse crudgen.toml"
  | badName fault _ => fault.message

def code : TextFault → String
  | notToml _ => "crudgen::parse_error"
  | misshapen _ => "crudgen::parse_error"
  | badName (.keyword ..) _ => "crudgen::reserved_keyword"
  | badName (.notIdentifier ..) _ => "crudgen::invalid_identifier"
  | badName _ _ => "crudgen::validation_error"

def help : TextFault → Option String
  | badName (.keyword use name) _ =>
    some ("rename the " ++ use.label ++ " '" ++ name ++ "' to something else")
  | badName (.notIdentifier _ _ reason) _ =>
    some (reason.message ++ ". Use only letters, numbers, and underscores, starting with a letter"
      ++ " or underscore.")
  | _ => none

def span : TextFault → Option Span
  | notToml cause => some ⟨cause.offset, 0⟩
  | misshapen error => some error.span
  | badName _ span => span

/-- What is written at the span. -/
def label : TextFault → String
  | notToml _ => "parse error here"
  | misshapen _ => "parse error here"
  | badName (.keyword ..) _ => "reserved keyword used here"
  | badName (.notIdentifier ..) _ => "invalid identifier"
  | badName fault _ => fault.message

end TextFault

namespace ManifestError

def message : ManifestError → String
  | unreadable path _ => "failed to read '" ++ path.text ++ "'"
  | text _ fault => fault.message
  | model name (.notTable kind) => "model '" ++ name ++ "' must be a table, found " ++ kind
  | model name (.body fault) => "invalid model '" ++ name ++ "': " ++ fault.message

def code : ManifestError → Option String
  | unreadable .. => none
  | text _ fault => some fault.code
  | model _ (.notTable _) => some "crudgen::invalid_model_kind"
  | model _ (.body _) => some "crudgen::invalid_model"

def help : ManifestError → Option String
  | unreadable .. => some "run 'crudgen init' to create a starter crudgen.toml"
  | text _ fault => fault.help
  | model name (.notTable _) =>
    some ("describe the model as a table, e.g. [models." ++ name ++ "] with a `fields` array")
  | model _ (.body _) => some "each field needs a `name` and a `type`, and may set a `tag`"

end ManifestError
end RestScaffold
