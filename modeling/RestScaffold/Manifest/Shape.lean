import RestScaffold.Manifest.Basic
import RestScaffold.Text.Quoted
import RestScaffold.Toml.Evaluation

/-! # The shape of a manifest

A document is a manifest if its keys are known and hold what they should. The first entry at fault,
in the order of the document, is the one that is blamed.
-/
namespace RestScaffold
open Toml

inductive Expected where
  | project | map | text | path
  deriving DecidableEq, Repr

def Expected.label : Expected → String
  | project => "struct ProjectConfig"
  | map => "a map"
  | text => "a string"
  | path => "path string"

inductive Found where
  | scalar (s : Scalar)
  | sequence
  | map
  deriving DecidableEq, Repr

def Toml.Node.found? : Toml.Node → Option Found
  | .scalar _ s => some (.scalar s)
  | .unusable _ => none
  | .array .. => some .sequence
  | .table .. => some .map

/-- A date or time counts as a map. -/
def Found.label : Found → String
  | scalar (.string s) => "string " ++ quoted s
  | scalar (.integer i) => "integer `" ++ toString i ++ "`"
  | scalar (.float x) => "floating point `" ++ x.text ++ "`"
  | scalar (.boolean b) => "boolean `" ++ toString b ++ "`"
  | scalar (.datetime _) => "map"
  | sequence => "sequence"
  | map => "map"

inductive ShapeFault where
  | unknownKey (name : String) (known : List String)
  | wrongKind (found : Found) (expected : Expected)
  | unknownLayout (name : String)
  /-- A layout is a text, or a table with the name of one as its only key. -/
  | noLayout
  | emptyLayout
  | manyLayouts
  /-- Under the name of a layout in a table there may be an empty table or array only. -/
  | layoutEntries (found : Found)
  | layoutValue (kind : String)
  /-- What should be read has no value. -/
  | noValue
  deriving DecidableEq, Repr

def ticked (s : String) : String := "`" ++ s ++ "`"

/-- Names to choose from. -/
def choice : List String → String
  | [a] => ticked a
  | [a, b] => ticked a ++ " or " ++ ticked b
  | names => "one of " ++ String.intercalate ", " (names.map ticked)

def ShapeFault.message : ShapeFault → String
  | unknownKey name known => "unknown field " ++ ticked name ++ ", expected " ++ choice known
  | wrongKind found expected => "invalid type: " ++ found.label ++ ", expected " ++ expected.label
  | unknownLayout name =>
    "unknown variant " ++ ticked name ++ ", expected " ++ choice (Layout.all.map (·.name))
  | noLayout => "wanted string or table"
  | emptyLayout => "wanted exactly 1 element, found 0 elements"
  | manyLayouts => "wanted exactly 1 element, more than 1 element"
  | layoutEntries .sequence => "expected empty array"
  | layoutEntries _ => "expected empty table"
  | layoutValue kind => "expected table, found " ++ kind
  | noValue => "no value"

structure ShapeError where
  fault : ShapeFault
  span : Span
  deriving DecidableEq, Repr

def projectKeys : List String := ["output", "router"]

def manifestKeys : List String := ["project", "plurals", "models"]

namespace Manifest

def wrongKind {α : Type} (node : Toml.Node) (expected : Expected) : Except ShapeError α :=
  match node.found? with
  | some found => throw ⟨.wrongKind found expected, node.span⟩
  | none => throw ⟨.noValue, node.span⟩

def readText (expected : Expected) : Toml.Node → Except ShapeError String
  | .scalar _ (.string s) => return s
  | node => wrongKind node expected

def readPath (node : Toml.Node) : Except ShapeError Path := Path.mk <$> readText .path node

def readLayoutName (name : String) (span : Span) : Except ShapeError Layout :=
  match Layout.ofName? name with
  | some layout => return layout
  | none => throw ⟨.unknownLayout name, span⟩

/-- Nothing can be said under the name of a layout. -/
def requireEmpty : Toml.Node → Except ShapeError Unit
  | .array _ _ [] => return ()
  | .table _ _ [] => return ()
  | .array span .. => throw ⟨.layoutEntries .sequence, span⟩
  | .table span .. => throw ⟨.layoutEntries .map, span⟩
  | .scalar span s => throw ⟨.layoutValue s.kind, span⟩
  | .unusable span => throw ⟨.noValue, span⟩

def readLayout : Toml.Node → Except ShapeError Layout
  | .scalar span (.string name) => readLayoutName name span
  | .table span _ [] => throw ⟨.emptyLayout, span⟩
  | .table _ _ [(key, node)] => do
    let layout ← readLayoutName key.name key.span
    requireEmpty node
    return layout
  | .table span .. => throw ⟨.manyLayouts, span⟩
  | node => throw ⟨.noLayout, node.span⟩

def readProjectEntry (p : Project) : Key × Toml.Node → Except ShapeError Project
  | (key, node) =>
    match key.name with
    | "output" => return { p with output := ← readPath node }
    | "router" => return { p with router := ← readLayout node }
    | name => throw ⟨.unknownKey name projectKeys, key.span⟩

/-- The items of an array are the values of the keys in their order. -/
def readProject : Toml.Node → Except ShapeError Project
  | .table _ _ entries => entries.foldlM readProjectEntry .default
  | .array _ _ [] => return .default
  | .array _ _ [output] => return { Project.default with output := ← readPath output }
  | .array _ _ (output :: router :: _) => return ⟨← readPath output, ← readLayout router⟩
  | .scalar span (.datetime _) => throw ⟨.unknownKey datetimeKey projectKeys, span⟩
  | node => wrongKind node .project

def readPlurals : Toml.Node → Except ShapeError (List (String × String))
  | .table _ _ entries => entries.mapM fun (key, node) => return (key.name, ← readText .text node)
  | .scalar _ (.datetime d) => return [(datetimeKey, d.text)]
  | node => wrongKind node .map

def readModels : Toml.Node → Except ShapeError (List (String × Toml.Value))
  | .table _ _ entries => (Entries.values entries).mapError fun span => ⟨.noValue, span⟩
  | .scalar _ (.datetime d) => return [(datetimeKey, .scalar (.string d.text))]
  | node => wrongKind node .map

def readEntry (m : Manifest) : Key × Toml.Node → Except ShapeError Manifest
  | (key, node) =>
    match key.name with
    | "project" => return { m with project := ← readProject node }
    | "plurals" => return { m with plurals := ← readPlurals node }
    | "models" => return { m with models := ← readModels node }
    | name => throw ⟨.unknownKey name manifestKeys, key.span⟩

def ofEntries (entries : Entries) : Except ShapeError Manifest := entries.foldlM readEntry .empty

end Manifest
end RestScaffold
