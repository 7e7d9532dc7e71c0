import RestScaffold.Command.Run

/-! # The program

Steps on the disk are taken by the operating system. The lines of the outcome go to the standard
output, its warnings and what went wrong to the standard error.
-/
namespace RestScaffold

/-- Some calls give the number of an error with its sign turned. -/
def isErrorNumber (code : UInt32) (number : Nat) : Bool :=
  code.toNat = number || code.toNat + number = Nat.pow 2 32

def faultOf : IO.Error → Fault
  | .noFileOrDirectory .. => .notFound
  | .alreadyExists .. => .alreadyExists
  | .inappropriateType _ code _ =>
    if isErrorNumber code 21 then .isADirectory else .notADirectory
  | .invalidArgument _ code details =>
    if isErrorNumber code 36 then .nameTooLong else .other details
  | error => .other (toString error)

def attemptStep {α : Type} (step : IO α) : IO (Except Fault α) := do
  match ← step.toBaseIO with
  | .ok a => return .ok a
  | .error error => return .error (faultOf error)

instance : MonadDisk IO where
  makeDir p := attemptStep (IO.FS.createDir p.text)
  isDir p := do
    match ← (IO.FS.realPath p.text).toBaseIO with
    | .ok real => real.isDir
    | .error _ => return false
  hasEntry p := do
    match ← (IO.FS.realPath p.text).toBaseIO with
    | .ok _ => return true
    | .error _ => return false
  store p content := attemptStep (IO.FS.writeFile p.text content)
  load p := do
    match ← attemptStep (IO.FS.readBinFile p.text) with
    | .error fault => return .error fault
    | .ok bytes =>
      match String.fromUTF8? bytes with
      | some content => return .ok content
      | none => return .error .invalidText

def showLine : Line → IO Unit
  | .plain text => IO.println text
  | .warning text => IO.eprintln ("warning: " ++ text)

def showOutcome (outcome : Outcome) : IO UInt32 := do
  for line in outcome.lines do showLine line
  if let .error error := outcome then IO.eprintln ("error: " ++ error.message)
  return outcome.exitCode.toUInt32

end RestScaffold

def main (args : List String) : IO UInt32 := do
  RestScaffold.showOutcome (← RestScaffold.runArguments args)
