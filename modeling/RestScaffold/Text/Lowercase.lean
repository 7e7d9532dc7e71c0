import RestScaffold.Unicode.Casing
import RestScaffold.Unicode.CaseIgnorable

/-! # Lower case of a text

Every character takes its lower case form. A capital sigma becomes the final one where a word ends,
that is, where a cased letter stands before it and none after it.
-/
namespace RestScaffold
open Unicode

/-- Whether the first character that has a say in case is a cased one. -/
def meetsCased (cs : List Char) : Bool :=
  match cs.dropWhile isCaseIgnorable with
  | [] => false
  | c :: _ => isCased c

/-- Lower case of the characters that follow `before`, which is listed from its end. -/
def lowerAfter : List Char → List Char → List Char
  | _, [] => []
  | before, c :: rest =>
    (if c = 'Σ' then [if meetsCased before && !meetsCased rest then 'ς' else 'σ']
      else lowerChar c) ++ lowerAfter (c :: before) rest

def lowercase (s : String) : String := String.ofList (lowerAfter [] s.toList)

/-- Whether some character is an upper case letter. -/
def hasUppercase (s : String) : Bool := s.toList.any isUppercase

end RestScaffold
