import RestScaffold.Generation.Error
import RestScaffold.Output.File

/-! # Emitting files

Files are written below a root in the order in which they come, up to the first that fails. What
has been written by then stays, and the emitter knows which files these are.
-/
namespace RestScaffold

structure Emitter where
  root : Path
  written : List Path
  skipped : List Path
  deriving DecidableEq, Repr

/-- Each path once, under its first spelling. -/
def noteOnce (p : Path) (paths : List Path) : List Path :=
  if paths.any p.sameAs then paths else paths ++ [p]

/-- How a run that came to its end went. -/
structure Report where
  written : List Path
  skipped : List Path
  deriving DecidableEq, Repr

def Report.total (r : Report) : Nat := r.written.length + r.skipped.length

namespace Emitter
variable {m : Type → Type} [Monad m] [MonadDisk m]

def new (root : Path) : Emitter := ⟨root, [], []⟩

def note (e : Emitter) (p : Path) : WriteResult → Emitter
  | .written => { e with written := noteOnce p e.written }
  | .skipped => { e with skipped := noteOnce p e.skipped }

def createDir (e : Emitter) (below : Path) : m (Except GenerationError Unit) := do
  match ← ensureDir (e.root.join below) with
  | .ok () => return .ok ()
  | .error fault => return .error (.disk (e.root.join below) fault)

def emit (e : Emitter) (f : OutputFile) : m (Emitter × Except GenerationError WriteResult) := do
  match ← f.writeTo e.root with
  | .ok result => return (e.note (f.fullPath e.root) result, .ok result)
  | .error fault => return (e, .error (.disk (f.fullPath e.root) fault))

def emitAll (e : Emitter) : List OutputFile → m (Emitter × Except GenerationError Unit)
  | [] => return (e, .ok ())
  | f :: rest => do
    match ← e.emit f with
    | (e, .ok _) => e.emitAll rest
    | (e, .error cause) => return (e, .error cause)

def finish (e : Emitter) : Report := ⟨e.written, e.skipped⟩

def fail (e : Emitter) (cause : GenerationError) : GenerationFailure := ⟨e.written, cause⟩

end Emitter
end RestScaffold
