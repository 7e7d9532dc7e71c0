/-! # Where a text occurs in another

Places in a source text are counted in bytes of its UTF-8 form.
-/
namespace RestScaffold

/-- A stretch of a source text, in bytes. -/
structure Span where
  offset : Nat
  length : Nat
  deriving DecidableEq, Repr

/-- The offset of the first place where `pattern` starts, the list itself starting at `offset`. -/
def occurrenceFrom (pattern : List Char) : Nat → List Char → Option Nat
  | offset, [] => if pattern.isEmpty then some offset else none
  | offset, c :: rest =>
    if pattern.isPrefixOf (c :: rest) then some offset
    else occurrenceFrom pattern (offset + c.utf8Size) rest

def occurrence (source pattern : String) : Option Nat :=
  occurrenceFrom pattern.toList 0 source.toList

end RestScaffold
