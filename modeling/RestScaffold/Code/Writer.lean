import RestScaffold.Code.Fragment

/-! # Writing fragments

A writer holds the text so far and the depth at which the next line starts. A blank line is a bare
line feed at any depth.
-/
namespace RestScaffold

structure Writer where
  indent : Indent
  depth : Nat
  text : String
  deriving DecidableEq, Repr

namespace Writer

def new (indent : Indent) : Writer := ⟨indent, 0, ""⟩

def blank (w : Writer) : Writer := { w with text := w.text ++ "\n" }

def writeIndent (w : Writer) : Writer :=
  { w with text := w.text ++ String.join (List.replicate w.depth w.indent.unit) }

def writeLine (w : Writer) (line : String) : Writer :=
  { w.writeIndent with text := w.writeIndent.text ++ line ++ "\n" }

/-- An empty comment is its marker alone. -/
def writeComment (w : Writer) (marker text : String) : Writer :=
  if text.isEmpty then w.writeLine marker else w.writeLine (marker ++ " " ++ text)

def deeper (w : Writer) : Writer := { w with depth := w.depth + 1 }

def shallower (w : Writer) : Writer := { w with depth := w.depth - 1 }

mutual

def apply (w : Writer) : Fragment → Writer
  | .line text => w.writeLine text
  | .blank => w.blank
  | .block header body close =>
    let closed := (((w.writeLine header).deeper).emit body).shallower
    match close with
    | some line => closed.writeLine line
    | none => closed
  | .indent body => (w.deeper.emit body).shallower
  | .doc text => w.writeComment "///" text
  | .comment text => w.writeComment "//" text

def emit (w : Writer) : List Fragment → Writer
  | [] => w
  | fragment :: rest => (w.apply fragment).emit rest

end

/-- The text of some fragments in the standard indentation. -/
def write (fragments : List Fragment) : String := ((new .standard).emit fragments).text

end Writer
end RestScaffold
