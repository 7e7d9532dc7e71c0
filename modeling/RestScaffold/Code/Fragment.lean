/-! # Fragments of code

Source text as a tree of lines, in which depth stands for indentation.
-/
namespace RestScaffold

inductive Fragment where
  | line (text : String)
  | blank
  /-- A header, a body one level deeper, and a closing line if there is one. -/
  | block (header : String) (body : List Fragment) (close : Option String)
  | indent (body : List Fragment)
  /-- A comment that documents what follows. -/
  | doc (text : String)
  | comment (text : String)
  deriving Repr

/-- What one level of depth is written as. -/
inductive Indent where
  | spaces (width : Nat)
  | tab
  deriving DecidableEq, Repr

namespace Indent

def standard : Indent := spaces 4

/-- Widths other than two, four and eight count as four. -/
def unit : Indent → String
  | spaces 2 => "  "
  | spaces 8 => "        "
  | spaces _ => "    "
  | tab => "\t"

end Indent
end RestScaffold
