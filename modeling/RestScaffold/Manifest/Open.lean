import RestScaffold.Manifest.Read

/-! # Manifests on a disk -/
namespace RestScaffold
variable {m : Type → Type} [Monad m] [MonadDisk m]

/-- A manifest with the file it was read from. -/
structure OpenManifest where
  path : Path
  content : String
  manifest : Manifest
  deriving Repr

def openManifest (path : Path) : m (Except ManifestError OpenManifest) := do
  match ← MonadDisk.load path with
  | .error fault => return .error (.unreadable path fault)
  | .ok content => return (Manifest.ofText path.text content).map fun manifest =>
      ⟨path, content, manifest⟩

/-- A relative output directory is meant from where the manifest is. -/
def OpenManifest.outputDir (f : OpenManifest) : Path :=
  match f.path.parent with
  | some above => above.join f.manifest.project.output
  | none => f.manifest.project.output

end RestScaffold
