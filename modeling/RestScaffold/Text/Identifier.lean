/-! # Identifiers

An ASCII letter or an underscore, then ASCII letters, digits and underscores; an underscore alone
is none.
-/
namespace RestScaffold

def startsIdentifier (c : Char) : Bool := c.isAlpha || c == '_'

def continuesIdentifier (c : Char) : Bool := c.isAlphanum || c == '_'

def isIdentifier (s : String) : Bool :=
  match s.toList with
  | [] => false
  | c :: rest => startsIdentifier c && rest.all continuesIdentifier && s != "_"

end RestScaffold
