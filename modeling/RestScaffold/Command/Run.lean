import RestScaffold.Command.Report
import RestScaffold.Generation.Run
import RestScaffold.Manifest.Open
import RestScaffold.Manifest.Starter

/-! # Running a command

Every step that a command takes is one on the disk. A manifest is read and its files are rendered
before anything is written.
-/
namespace RestScaffold
variable {m : Type → Type} [Monad m] [MonadDisk m]

/-- The starter manifest, which takes the place of another one only if that is forced. -/
def starterFile (force : Bool) : OutputFile :=
  ⟨⟨manifestFile⟩, starterManifest, if force then .plain else .createOnce⟩

def runInit (directory : Path) (force : Bool) : m Outcome := do
  let file := starterFile force
  match ← file.writeTo directory with
  | .ok .written => return .ok (.created (file.fullPath directory))
  | .ok .skipped => return .ok (.kept (file.fullPath directory))
  | .error fault => return .error (.unwritable (file.fullPath directory) fault)

/-- A manifest with the schemas of its models. -/
def openModels (config : Path) : m (Except ManifestError (OpenManifest × List Schema)) := do
  match ← openManifest config with
  | .error error => return .error error
  | .ok file => return file.manifest.schemas.map fun schemas => (file, schemas)

def runCheck (config : Path) : m Outcome := do
  match ← openModels config with
  | .error error => return .error (.manifest error)
  | .ok (file, schemas) =>
    match (file.manifest.job schemas).render with
    | .error error => return .error (.rendering error)
    | .ok files => return .ok (.checked config schemas files.length)

/-- What the options make of a manifest. -/
def GenerateOptions.plan (o : GenerateOptions) (file : OpenManifest) (schemas : List Schema) :
    Plan :=
  ⟨schemas, o.output.getD file.outputDir, o.router.getD file.manifest.project.router⟩

def Plan.job (p : Plan) (file : OpenManifest) : Job :=
  { file.manifest.job p.schemas with layout := p.layout }

def runGenerate (o : GenerateOptions) : m Outcome := do
  match ← openModels o.config with
  | .error error => return .error (.manifest error)
  | .ok (file, schemas) =>
    let plan := o.plan file schemas
    if o.dryRun then
      match (plan.job file).render with
      | .error error => return .error (.rendering error)
      | .ok files => return .ok (.previewed files)
    else
      match ← (plan.job file).generate plan.output with
      | .error failure => return .error (.generation failure)
      | .ok report => return .ok (.generated plan report)

def Command.run : Command → m Outcome
  | .init directory force => runInit directory force
  | .generate options => runGenerate options
  | .check config => runCheck config

/-- Runs the program on its arguments. -/
def runArguments (args : List String) : m Outcome := do
  match Request.ofArguments args with
  | .error error => return .error (.usage error)
  | .ok .version => return .ok .version
  | .ok (.run command) => command.run

end RestScaffold
