import RestScaffold.Model.Basic
import RestScaffold.Output.File
import RestScaffold.Output.TargetType

/-! # The file of records

One record type per model, with a field for each field of the schema.
-/
namespace RestScaffold

/-- The key of a field is spelled out where it is not the column. -/
def ModelField.attributes (f : ModelField) : List String :=
  if f.needsRename then ["serde(rename = \"" ++ f.tag ++ "\")"] else []

def ModelField.recordField (f : ModelField) : RecordField :=
  ⟨f.ident, f.type.targetType, none, f.attributes⟩

def Model.record (m : Model) : Record where
  name := m.name
  doc := none
  derives := ["Debug", "Clone", "Serialize", "Deserialize", "sqlx::FromRow"]
  fields := m.fields.map ModelField.recordField

def recordsFile (models : List Model) : GeneratedFile where
  steps := ["models.rs"]
  rules := .generated
  source := (Source.empty.importAll "serde" ["Deserialize", "Serialize"]).addAll
    (models.map fun m => .record m.record)

end RestScaffold
