import RestScaffold.Generation.Batch
import RestScaffold.Manifest.Error
import RestScaffold.Manifest.NameSpan
import RestScaffold.Toml.Parse

/-! # Reading a manifest

A text is read as a document, the document as a manifest, and then the names are checked. The bodies
of the models are left until their schemas are asked for.
-/
namespace RestScaffold

/-- The schemas of models in their order, or the first model that has none. -/
def schemasOf (models : List (String × Toml.Value)) : Except ManifestError (List Schema) :=
  models.mapM fun (name, body) => (schemaOf name body).mapError (.model name)

namespace Manifest

/-- The shape is blamed only if every node of the document has a value. -/
def shapeFault (entries : Toml.Entries) (error : ShapeError) : TextFault :=
  match Toml.Entries.values entries with
  | .ok _ => .misshapen error
  | .error span => .notToml ⟨span.offset, "a value"⟩

/-- Reads a text without naming the file that it is from. -/
def parse (text : String) : Except TextFault Manifest := do
  let entries ← (Toml.parse text).mapError .notToml
  let m ← (ofEntries entries).mapError (shapeFault entries)
  m.checkNames.mapError fun fault => .badName fault (nameSpan text fault.subject)
  return m

def ofText (file text : String) : Except ManifestError Manifest :=
  (parse text).mapError (.text file)

def schemas (m : Manifest) : Except ManifestError (List Schema) := schemasOf m.models

def policy (m : Manifest) : PluralPolicy := .irregular (.ofPairs m.plurals) .naive

/-- What is to be generated for schemas under the options of the manifest. -/
def job (m : Manifest) (schemas : List Schema) : Job := ⟨schemas, m.policy, m.project.router⟩

end Manifest
end RestScaffold
