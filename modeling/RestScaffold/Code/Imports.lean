import RestScaffold.Code.Fragment

/-! # Imports of a source file

One statement per module in the order of first mention, each with its symbols in ascending order.
-/
namespace RestScaffold

structure ImportGroup where
  module : String
  symbols : List String
  deriving DecidableEq, Repr

structure Imports where
  groups : List ImportGroup
  deriving DecidableEq, Repr

namespace Imports

def empty : Imports := ⟨[]⟩

/-- Keeps an ascending list ascending; a symbol that is there already is not added. -/
def insertSymbol (symbol : String) : List String → List String
  | [] => [symbol]
  | first :: rest =>
    if symbol < first then symbol :: first :: rest
    else if symbol = first then first :: rest
    else first :: insertSymbol symbol rest

/-- Changes the symbols of a module, which comes last if it is new. -/
def updateGroup (module : String) (change : List String → List String) :
    List ImportGroup → List ImportGroup
  | [] => [⟨module, change []⟩]
  | group :: rest =>
    if group.module = module then ⟨module, change group.symbols⟩ :: rest
    else group :: updateGroup module change rest

def add (i : Imports) (module symbol : String) : Imports :=
  ⟨updateGroup module (insertSymbol symbol) i.groups⟩

/-- The module itself. -/
def addModule (i : Imports) (module : String) : Imports := ⟨updateGroup module id i.groups⟩

/-- What stands before and after the last pair of colons. The first list is the text that was
passed, the second one what is left, from its end. -/
def cutAtColons : List Char → List Char → Option (String × String)
  | _, [] => none
  | symbol, ':' :: ':' :: rest => some (String.ofList rest.reverse, String.ofList symbol)
  | symbol, c :: rest => cutAtColons (c :: symbol) rest

/-- A path without colons is a module. -/
def addPath (i : Imports) (path : String) : Imports :=
  match cutAtColons [] path.toList.reverse with
  | some (module, symbol) => i.add module symbol
  | none => i.addModule path

def addAll (i : Imports) (module : String) (symbols : List String) : Imports :=
  symbols.foldl (fun i symbol => i.add module symbol) i

def isEmpty (i : Imports) : Bool := i.groups.isEmpty

def size (i : Imports) : Nat := i.groups.length

end Imports

def ImportGroup.statement (g : ImportGroup) : String :=
  match g.symbols with
  | [] => "use " ++ g.module ++ ";"
  | [symbol] => "use " ++ g.module ++ "::" ++ symbol ++ ";"
  | symbols => "use " ++ g.module ++ "::\x7b" ++ String.intercalate ", " symbols ++ "\x7d;"

namespace Imports

def text (i : Imports) : String :=
  String.intercalate "\n" (i.groups.map ImportGroup.statement)

def fragments (i : Imports) : List Fragment := i.groups.map fun g => .line g.statement

end Imports
end RestScaffold
