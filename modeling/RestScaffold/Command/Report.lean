import RestScaffold.Command.Basic
import RestScaffold.Emission.Emitter
import RestScaffold.Manifest.Error

/-! # Reports

What a command did, and why it could not, as data and as the lines that are shown.
-/
namespace RestScaffold

/-- How the files of a run are made, the options of the command having their say. -/
structure Plan where
  schemas : List Schema
  output : Path
  layout : Layout
  deriving DecidableEq, Repr

inductive CommandReport where
  | version
  | created (path : Path)
  /-- The manifest was there already. -/
  | kept (path : Path)
  | checked (config : Path) (schemas : List Schema) (fileCount : Nat)
  | generated (plan : Plan) (report : Report)
  | previewed (files : List OutputFile)
  deriving DecidableEq, Repr

inductive CommandError where
  | usage (error : UsageError)
  | manifest (error : ManifestError)
  | unwritable (path : Path) (fault : Fault)
  | rendering (error : GenerationError)
  | generation (failure : GenerationFailure)
  deriving DecidableEq, Repr

inductive Line where
  | plain (text : String)
  | warning (text : String)
  deriving DecidableEq, Repr

namespace Line

/-- What goes to the standard output. -/
def output? : Line → Option String
  | plain text => some (text ++ "\n")
  | warning _ => none

/-- What goes to the standard error, without its line end. -/
def warning? : Line → Option String
  | plain _ => none
  | warning text => some ("warning: " ++ text)

end Line

def programName : String := "crudgen"

def programVersion : String := "0.1.0"

def fieldLine (f : Field) : Line :=
  .plain ("  Field: " ++ f.name ++ " (" ++ f.type.name ++ ") `" ++ f.tag ++ "`")

def schemaLines (s : Schema) : List Line :=
  .plain ("Schema: " ++ s.name) :: s.fields.map fieldLine

def countLine (n : Nat) : Line := .plain (toString n ++ " files would be generated")

def dividerLine (label : String) : Line := .plain ("── " ++ label ++ " ──")

/-- The way from the output directory to a file. -/
def Plan.shown (p : Plan) (path : Path) : String := ((path.relativeTo? p.output).getD path).text

def Plan.lines (p : Plan) (r : Report) : List Line :=
  p.schemas.flatMap schemaLines
    ++ [.plain "", .plain ("Generated: " ++ p.output.text ++ " (" ++ p.layout.name ++ " router)")]
    ++ r.written.map (fun path => .plain ("  + " ++ p.shown path))
    ++ r.skipped.map (fun path => .plain ("  - " ++ p.shown path ++ " (kept)"))

def CommandReport.lines : CommandReport → List Line
  | version => [.plain (programName ++ " " ++ programVersion)]
  | created path => [.plain ("Created " ++ path.text), .plain "",
      .plain "Next: edit the models, then run `crudgen generate`."]
  | kept path => [.warning (path.text
      ++ " already exists, left untouched (use --force to overwrite)")]
  | checked config schemas fileCount =>
    (if schemas.isEmpty then [.warning "no models defined"] else [])
      ++ [.plain ("✓ " ++ config.text ++ " is valid"), .plain ""]
      ++ schemas.flatMap schemaLines ++ [.plain "", countLine fileCount]
  | generated plan report => plan.lines report
  | previewed files =>
    files.flatMap (fun f => [dividerLine f.path.text, .plain f.content])
      ++ [dividerLine "Summary", countLine files.length]

namespace CommandError

/-- A run that failed part way shows what it had written. -/
def lines : CommandError → List Line
  | generation ⟨[], _⟩ => []
  | generation ⟨written, _⟩ =>
    .warning "generation stopped part way; these files were already written:"
      :: written.map fun path => .plain ("  + " ++ path.text)
  | _ => []

def message : CommandError → String
  | usage error => error.message
  | manifest error => error.message
  | unwritable path fault => "Failed to write " ++ path.text ++ ": " ++ fault.message
  | rendering error => error.message
  | generation failure => failure.message

/-- Misuse of the command line has a code of its own. -/
def exitCode : CommandError → Nat
  | usage _ => 2
  | _ => 1

end CommandError

abbrev Outcome := Except CommandError CommandReport

namespace Outcome

def lines : Outcome → List Line
  | .ok report => report.lines
  | .error error => error.lines

def exitCode : Outcome → Nat
  | .ok _ => 0
  | .error error => error.exitCode

end Outcome
end RestScaffold
