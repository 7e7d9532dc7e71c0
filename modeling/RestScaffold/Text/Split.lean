/-! # Cutting a text at a character -/
namespace RestScaffold

/-- The stretches between the occurrences of `sep`; there is one more of them than occurrences. -/
def splitAtChar (sep : Char) : List Char → List (List Char)
  | [] => [[]]
  | c :: rest =>
    if c = sep then [] :: splitAtChar sep rest
    else match splitAtChar sep rest with
      | [] => [[c]]
      | first :: others => (c :: first) :: others

def splitOnChar (sep : Char) (s : String) : List String :=
  (splitAtChar sep s.toList).map String.ofList

end RestScaffold
