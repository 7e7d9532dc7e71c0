import RestScaffold.Disk.Basic

/-! # Writing files and the directories above them -/
namespace RestScaffold
variable {m : Type → Type} [Monad m] [MonadDisk m]

/-- Makes a directory that may be there already. -/
def settleDir (p : Path) : m (Except Fault Unit) := do
  match ← MonadDisk.makeDir p with
  | .ok () => return .ok ()
  | .error fault => return if ← MonadDisk.isDir p then .ok () else .error fault

/-- Makes the first of some directories, of which each lies in the next one. Those further up are
made only if they are missing. -/
def ensureDirs : List Path → m (Except Fault Unit)
  | [] => return .ok ()
  | p :: above => do
    match ← MonadDisk.makeDir p with
    | .ok () => return .ok ()
    | .error .notFound =>
      match ← ensureDirs above with
      | .ok () => settleDir p
      | .error fault => return .error fault
    | .error fault => return if ← MonadDisk.isDir p then .ok () else .error fault

def ensureDir (p : Path) : m (Except Fault Unit) := ensureDirs p.ancestors

/-- Makes the directories above a file, then the file. -/
def writeFile (p : Path) (content : String) : m (Except Fault Unit) := do
  match p.parent with
  | none => MonadDisk.store p content
  | some above =>
    match ← ensureDir above with
    | .ok () => MonadDisk.store p content
    | .error fault => return .error fault

inductive Overwrite where
  | always
  /-- Whatever is there already is left alone. -/
  | ifMissing
  deriving DecidableEq, Repr

inductive WriteResult where
  | written
  | skipped
  deriving DecidableEq, Repr

def writeNew (p : Path) (content : String) : m (Except Fault WriteResult) := do
  match ← writeFile p content with
  | .ok () => return .ok .written
  | .error fault => return .error fault

def writeWith (overwrite : Overwrite) (p : Path) (content : String) :
    m (Except Fault WriteResult) := do
  match overwrite with
  | .always => writeNew p content
  | .ifMissing => if ← MonadDisk.hasEntry p then return .ok .skipped else writeNew p content

end RestScaffold
