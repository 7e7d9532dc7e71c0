import RestScaffold.Disk.Basic
import RestScaffold.Model.Error

/-! # Why a run fails -/
namespace RestScaffold

inductive GenerationError where
  | model (name : String) (cause : ModelError)
  | disk (path : Path) (fault : Fault)
  deriving DecidableEq, Repr

def GenerationError.message : GenerationError → String
  | model name cause => "failed to render model '" ++ name ++ "': " ++ cause.message
  | disk path fault => "failed to write '" ++ path.text ++ "': " ++ fault.message

/-- A run that failed, and the files it had written by then. -/
structure GenerationFailure where
  written : List Path
  cause : GenerationError
  deriving DecidableEq, Repr

def GenerationFailure.message (f : GenerationFailure) : String := f.cause.message

end RestScaffold
