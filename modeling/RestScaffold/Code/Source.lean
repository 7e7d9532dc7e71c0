import RestScaffold.Code.CaseSplit
import RestScaffold.Code.Chain
import RestScaffold.Code.Imports
import RestScaffold.Code.Record
import RestScaffold.Code.Writer
import RestScaffold.Text.Lines

/-! # Source files

Module declarations, imports and items, with a blank line between any two sections.
-/
namespace RestScaffold

/-- Text taken over line by line. -/
structure RawCode where
  text : String
  deriving DecidableEq, Repr

namespace RawCode

def ofLines (lines : List String) : RawCode := ⟨String.intercalate "\n" lines⟩

def fragments (r : RawCode) : List Fragment := (linesOf r.text).map .line

end RawCode

inductive Node where
  | function (f : FunctionItem)
  | record (r : Record)
  | caseSplit (s : CaseSplit)
  | chain (c : Chain)
  | raw (r : RawCode)
  | fragments (fs : List Fragment)
  deriving Repr

def Node.toFragments : Node → List Fragment
  | function f => f.fragments
  | record r => r.fragments
  | caseSplit s => s.fragments
  | chain c => c.fragments
  | raw r => r.fragments
  | fragments fs => fs

structure ModuleDeclaration where
  name : String
  isPublic : Bool
  deriving DecidableEq, Repr

def ModuleDeclaration.text (d : ModuleDeclaration) : String :=
  (if d.isPublic then "pub mod " else "mod ") ++ d.name ++ ";"

structure Source where
  modules : List ModuleDeclaration
  imports : Imports
  items : List Node
  deriving Repr

namespace Source

def empty : Source := ⟨[], .empty, []⟩

def declare (s : Source) (name : String) (isPublic : Bool) : Source :=
  { s with modules := s.modules ++ [⟨name, isPublic⟩] }

def importPath (s : Source) (path : String) : Source :=
  { s with imports := s.imports.addPath path }

def importAll (s : Source) (module : String) (symbols : List String) : Source :=
  { s with imports := s.imports.addAll module symbols }

def add (s : Source) (item : Node) : Source := { s with items := s.items ++ [item] }

def addAll (s : Source) (items : List Node) : Source := { s with items := s.items ++ items }

/-- Declarations and imports are sections only if there are any. -/
def sections (s : Source) : List (List Fragment) :=
  (if s.modules.isEmpty then [] else [s.modules.map fun d => .line d.text])
    ++ (if s.imports.isEmpty then [] else [s.imports.fragments])
    ++ s.items.map Node.toFragments

/-- Every section but the first has a blank line before it. -/
def writeSections (w : Writer) : List (List Fragment) → Writer
  | [] => w
  | first :: rest => rest.foldl (fun w part => w.blank.emit part) (w.emit first)

def renderWith (s : Source) (indent : Indent) : String :=
  (writeSections (.new indent) s.sections).text

def render (s : Source) : String := s.renderWith .standard

def isEmpty (s : Source) : Bool :=
  s.modules.isEmpty && s.imports.isEmpty && s.items.isEmpty

end Source
end RestScaffold
