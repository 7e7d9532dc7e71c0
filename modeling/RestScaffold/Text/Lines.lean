/-! # Lines of a text

A line ends at a line feed, and a carriage return right before that goes with it. The text after
the last line feed is a line only if there is any.
-/
namespace RestScaffold

/-- `current` is the open line, reversed. -/
def linesFrom : List Char → List Char → List (List Char)
  | current, [] => if current.isEmpty then [] else [current.reverse]
  | '\r' :: current, '\n' :: rest => current.reverse :: linesFrom [] rest
  | current, '\n' :: rest => current.reverse :: linesFrom [] rest
  | current, c :: rest => linesFrom (c :: current) rest

def linesOf (s : String) : List String := (linesFrom [] s.toList).map String.ofList

end RestScaffold
