import RestScaffold.Unicode.Ranges

/-! # White space and control characters -/
namespace RestScaffold.Unicode

/-- Every `White_Space` code point. -/
def blankRanges : List Nat := [
  0x9, 0xD, 0x20, 0x20, 0x85, 0x85, 0xA0, 0xA0, 0x1680, 0x1680, 0x2000, 0x200A, 0x2028, 0x2029,
  0x202F, 0x202F, 0x205F, 0x205F, 0x3000, 0x3000]

def isBlank (c : Char) : Bool := covers blankRanges c.toNat

/-- The general category `Cc`. -/
def isControl (c : Char) : Bool := c.toNat < 0x20 || (0x7F ≤ c.toNat && c.toNat < 0xA0)

/-- The characters without the white space at both ends. -/
def trimBlank (cs : List Char) : List Char :=
  ((cs.dropWhile isBlank).reverse.dropWhile isBlank).reverse

end RestScaffold.Unicode
