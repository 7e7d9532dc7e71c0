import RestScaffold.Disk.Path
import RestScaffold.Generation.Layout
import RestScaffold.Toml.Value

/-! # Manifests

A manifest says where the files of a run go and how its router is laid out, which plurals are
irregular, and what the models are. A model is kept as the value that stands for it until its schema
is asked for.
-/
namespace RestScaffold

/-- The usual name of a manifest. -/
def manifestFile : String := "crudgen.toml"

/-- Where the files go if the manifest does not say. -/
def defaultOutput : String := "api/rest"

structure Project where
  output : Path
  router : Layout
  deriving DecidableEq, Repr

def Project.default : Project := ⟨⟨defaultOutput⟩, .default⟩

structure Manifest where
  project : Project
  /-- Irregular plurals with their singulars in front. -/
  plurals : List (String × String)
  models : List (String × Toml.Value)
  deriving Repr

namespace Manifest

def empty : Manifest := ⟨.default, [], []⟩

def hasModel (m : Manifest) (name : String) : Bool := m.models.any (·.1 == name)

end Manifest
end RestScaffold
