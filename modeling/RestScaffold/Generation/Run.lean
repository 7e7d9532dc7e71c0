import RestScaffold.Emission.Emitter
import RestScaffold.Generation.Batch

/-! # Runs

Everything is rendered before the first step on the disk is taken.
-/
namespace RestScaffold
variable {m : Type → Type} [Monad m] [MonadDisk m]

/-- Makes the directory of the handlers and the output directory, then writes the files. -/
def Emitter.writeFiles (e : Emitter) (files : List OutputFile) :
    m (Emitter × Except GenerationError Unit) := do
  match ← e.createDir ⟨"handlers"⟩ with
  | .error cause => return (e, .error cause)
  | .ok () =>
    match ← e.createDir ⟨""⟩ with
    | .error cause => return (e, .error cause)
    | .ok () => e.emitAll files

def Job.generate (j : Job) (output : Path) : m (Except GenerationFailure Report) := do
  match j.render with
  | .error cause => return .error ⟨[], cause⟩
  | .ok files =>
    match ← (Emitter.new output).writeFiles files with
    | (e, .ok ()) => return .ok e.finish
    | (e, .error cause) => return .error (e.fail cause)

end RestScaffold
