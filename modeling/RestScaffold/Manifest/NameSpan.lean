import RestScaffold.Text.Occurrence

/-! # Where a manifest has a name

A name is looked for at the end of a header, then inside one, then as a key at the start of a line,
and at last anywhere.
-/
namespace RestScaffold

/-- What may surround a name, in the order in which it is looked for. -/
def nameSurroundings : List (String × String) :=
  [(".", "]"), (".", "."), ("\n", " "), ("\n", "="), ("", "")]

def nameSpan (source name : String) : Option Span :=
  nameSurroundings.findSome? fun (before, after) =>
    (occurrence source (before ++ name ++ after)).map fun offset =>
      ⟨offset + before.utf8ByteSize, name.utf8ByteSize⟩

end RestScaffold
