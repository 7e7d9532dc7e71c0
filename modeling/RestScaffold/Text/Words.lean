import RestScaffold.Unicode.Alphanumeric
import RestScaffold.Unicode.Casing

/-! # Words of a name

A name is cut at every character that is neither a letter nor a number, after a lower case letter
that an upper case one follows, and before an upper case letter that ends a row of them. Joined in
lower case with underscores, the words are the name in snake case.
-/
namespace RestScaffold
open Unicode

/-- The case of the last cased letter of the word that is being read. -/
inductive WordCase where
  | none | lower | upper
  deriving DecidableEq, Repr

def WordCase.next (w : WordCase) (c : Char) : WordCase :=
  if isLowercase c then .lower else if isUppercase c then .upper else w

/-- The longest pieces of letters and numbers, `current` being the end of the open one, reversed. -/
def piecesFrom : List Char → List Char → List (List Char)
  | current, [] => if current.isEmpty then [] else [current.reverse]
  | current, c :: rest =>
    if isAlphanumeric c then piecesFrom (c :: current) rest
    else if current.isEmpty then piecesFrom [] rest
    else current.reverse :: piecesFrom [] rest

/-- The words of one piece, `current` being the open word, reversed. -/
def wordsFrom : WordCase → List Char → List Char → List (List Char)
  | _, _, [] => []
  | _, current, [c] => [(c :: current).reverse]
  | w, current, c :: next :: rest =>
    if w.next c = .lower ∧ isUppercase next then
      (c :: current).reverse :: wordsFrom .none [] (next :: rest)
    else if w = .upper ∧ isUppercase c ∧ isLowercase next then
      current.reverse :: wordsFrom .none [c] (next :: rest)
    else wordsFrom (w.next c) (c :: current) (next :: rest)

def words (cs : List Char) : List (List Char) :=
  (piecesFrom [] cs).flatMap (wordsFrom .none [])

/-- Lower case of one word, whose last letter may be a final sigma. -/
def lowerWord : List Char → List Char
  | [] => []
  | c :: rest => (if c = 'Σ' ∧ rest = [] then ['ς'] else lowerChar c) ++ lowerWord rest

def snakeCase (s : String) : String :=
  String.intercalate "_" ((words s.toList).map fun w => String.ofList (lowerWord w))

end RestScaffold
