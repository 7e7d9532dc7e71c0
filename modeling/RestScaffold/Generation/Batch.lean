import RestScaffold.Generation.Error
import RestScaffold.Generation.Layout
import RestScaffold.Model.Compose
import RestScaffold.Output.Records
import RestScaffold.Output.Router

/-! # Batches of models

The schemas of a run become models one after the other, and each has to get along with those before
it. From the models come all files of the run, in the order in which they are written.
-/
namespace RestScaffold

/-- Adds the model of a schema to those before it. -/
def addModel (policy : NamingPolicy) (models : List Model) (schema : Schema) :
    Except ModelError (List Model) := do
  let m ← Model.ofSchema policy .service schema
  m.checkNames
  match models.findSome? m.clash with
  | some clash => throw clash
  | none => return models ++ [m]

/-- The first schema that cannot join the ones before it is the one to blame. -/
def joinModels (policy : NamingPolicy) :
    List Model → List Schema → Except GenerationError (List Model)
  | models, [] => .ok models
  | models, schema :: rest =>
    match addModel policy models schema with
    | .ok more => joinModels policy more rest
    | .error cause => .error (.model schema.name cause)

def modelsOf (policy : NamingPolicy) (schemas : List Schema) :
    Except GenerationError (List Model) :=
  joinModels policy [] schemas

/-- The files of a model, with a router of its own in the layout that has one for each. -/
def modelFiles (layout : Layout) (m : Model) : List GeneratedFile :=
  match layout with
  | .combined => [m.handlerFile]
  | .perModel => [m.handlerFile, routerFile [m]]

def filesOf (layout : Layout) (models : List Model) : List GeneratedFile :=
  [recordsFile models, handlerIndex models] ++ models.flatMap (modelFiles layout)
    ++ match layout with
      | .combined => [routerFile models]
      | .perModel => []

/-- What a run works on. -/
structure Job where
  schemas : List Schema
  policy : NamingPolicy
  layout : Layout

namespace Job

def models (j : Job) : Except GenerationError (List Model) := modelsOf j.policy j.schemas

def render (j : Job) : Except GenerationError (List OutputFile) := do
  let models ← j.models
  return (filesOf j.layout models).map GeneratedFile.finish

end Job
end RestScaffold
