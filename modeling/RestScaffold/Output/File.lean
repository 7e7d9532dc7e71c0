import RestScaffold.Code.Source
import RestScaffold.Disk.Write

/-! # Files of a run

What a file holds, where it goes below the output directory, and how it treats what is there.
-/
namespace RestScaffold

/-- The first line of a file that is generated anew each time. -/
def generatedHeader : String := "// Code generated by crudgen. DO NOT EDIT."

structure FileRules where
  overwrite : Overwrite
  header : Option String
  deriving DecidableEq, Repr

namespace FileRules

def plain : FileRules := ⟨.always, none⟩

def generated : FileRules := ⟨.always, some generatedHeader⟩

/-- For a file that its reader is going to edit. -/
def createOnce : FileRules := ⟨.ifMissing, none⟩

/-- Puts the header and a blank line in front; nothing follows the header of an empty file. -/
def apply (r : FileRules) (content : String) : String :=
  match r.header with
  | none => content
  | some header =>
    if content.isEmpty then header ++ "\n" else header ++ "\n\n" ++ content

end FileRules

/-- A finished file, header included, under its path below the output directory. -/
structure OutputFile where
  path : Path
  content : String
  rules : FileRules
  deriving DecidableEq, Repr

namespace OutputFile
variable {m : Type → Type} [Monad m] [MonadDisk m]

def fullPath (f : OutputFile) (base : Path) : Path := base.join f.path

def writeTo (f : OutputFile) (base : Path) : m (Except Fault WriteResult) :=
  writeWith f.rules.overwrite (f.fullPath base) f.content

end OutputFile

/-- A file as it is composed, before its header is applied. -/
structure GeneratedFile where
  /-- The directories below the output directory and the name, outermost first. -/
  steps : List String
  source : Source
  rules : FileRules
  deriving Repr

namespace GeneratedFile
variable {m : Type → Type} [Monad m] [MonadDisk m]

def path (f : GeneratedFile) (base : Path) : Path :=
  f.steps.foldl (fun p step => p.join ⟨step⟩) base

def content (f : GeneratedFile) : String := f.rules.apply f.source.render

/-- The file with its header, away from any output directory. -/
def finish (f : GeneratedFile) : OutputFile := ⟨f.path ⟨""⟩, f.content, f.rules⟩

def write (f : GeneratedFile) (base : Path) : m (Except Fault WriteResult) :=
  writeWith f.rules.overwrite (f.path base) f.content

end GeneratedFile
end RestScaffold
