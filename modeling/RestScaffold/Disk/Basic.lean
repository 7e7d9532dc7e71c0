import RestScaffold.Disk.Path

/-! # Steps on a disk

A run does five things to a disk: it makes a directory, asks whether a path leads to a directory or
to anything, stores a text and loads one. Each step may fail, and the cause says why.
-/
namespace RestScaffold

inductive Fault where
  | notFound
  | alreadyExists
  | notADirectory
  | isADirectory
  | nameTooLong
  /-- A loaded file is no UTF-8 text. -/
  | invalidText
  /-- A path holds the character U+0000. -/
  | zeroInPath
  | other (description : String)
  deriving DecidableEq, Repr

def Fault.message : Fault → String
  | notFound => "No such file or directory (os error 2)"
  | alreadyExists => "File exists (os error 17)"
  | notADirectory => "Not a directory (os error 20)"
  | isADirectory => "Is a directory (os error 21)"
  | nameTooLong => "File name too long (os error 36)"
  | invalidText => "stream did not contain valid UTF-8"
  | zeroInPath => "file name contained an unexpected NUL byte"
  | other description => description

class MonadDisk (m : Type → Type) where
  /-- Makes one directory in a directory that is there already. -/
  makeDir : Path → m (Except Fault Unit)
  isDir : Path → m Bool
  hasEntry : Path → m Bool
  /-- Makes the file or replaces all that it holds. -/
  store : Path → String → m (Except Fault Unit)
  load : Path → m (Except Fault String)

end RestScaffold
