import RestScaffold.Toml.Numeral
import RestScaffold.Toml.Reader

/-! # Quoted strings of TOML

Between double quotes a backslash starts an escape; between single quotes every character stands for
itself. Three quotes allow line ends inside, and up to two quotes right before the closing three.
-/
namespace RestScaffold.Toml.Reader

/-- The character with a code point in hexadecimal. -/
def charOfHex? (digits : List Char) : Option Char :=
  let n := numberInBase 16 digits
  if digits.all isHexDigit ∧ n.isValidChar then some (Char.ofNat n) else none

/-- The escapes of one character. -/
def shortEscape? : Char → Option Char
  | 'b' => some (Char.ofNat 8)
  | 't' => some '\t'
  | 'n' => some '\n'
  | 'f' => some (Char.ofNat 12)
  | 'r' => some '\r'
  | 'e' => some (Char.ofNat 27)
  | '"' => some '"'
  | '\\' => some '\\'
  | _ => none

/-- How many digits an escape for a code point has. -/
def escapeWidth? : Char → Option Nat
  | 'x' => some 2
  | 'u' => some 4
  | 'U' => some 8
  | _ => none

/-- What follows a backslash. -/
def readEscape : Reader Char := do
  let start ← offset
  match ← take 1 with
  | [c] =>
    match shortEscape? c, escapeWidth? c with
    | some special, _ => return special
    | none, some width =>
      let digits ← take width
      if digits.length < width then expected "hexadecimal digits"
      else orExpected "a code point" start (charOfHex? digits)
    | none, none => expected "an escape"
  | _ => expected "an escape"

/-- Whether a backslash is followed by nothing but white space on its line. -/
def endsLine (cs : List Char) : Bool :=
  match cs.dropWhile isBlankChar with
  | '\n' :: _ => true
  | '\r' :: '\n' :: _ => true
  | _ => false

/-- White space and line ends. -/
def gapLength : List Char → Nat
  | '\n' :: rest => 1 + gapLength rest
  | '\r' :: '\n' :: rest => 2 + gapLength rest
  | c :: rest => if isBlankChar c then 1 + gapLength rest else 0
  | [] => 0

/-- The rest of a string on one line. The characters so far are listed from the last. -/
def readLineString (quote : Char) (escapes : Bool) : Nat → List Char → Reader (List Char)
  | 0, _ => expected "a closing quote"
  | n + 1, read => do
    match ← peek with
    | none => expected "a closing quote"
    | some c =>
      if c = quote then
        skip 1
        return read.reverse
      else if c = '\\' ∧ escapes then
        skip 1
        let special ← readEscape
        readLineString quote escapes n (special :: read)
      else if isPlain c then
        skip 1
        readLineString quote escapes n (c :: read)
      else expected "a closing quote"

/-- The rest of a string that may have several lines. -/
def readBlockString (quote : Char) (escapes : Bool) : Nat → List Char → Reader (List Char)
  | 0, _ => expected "closing quotes"
  | n + 1, read => do
    let rest := (← get).rest
    match rest with
    | [] => expected "closing quotes"
    | c :: after =>
      if c = quote then
        let quotes := (rest.takeWhile (· == quote)).length
        if 3 ≤ quotes then
          skip (min quotes 5)
          return (List.replicate (min quotes 5 - 3) quote ++ read).reverse
        else
          skip 1
          readBlockString quote escapes n (c :: read)
      else if c = '\\' ∧ escapes then
        if endsLine after then
          skip (1 + gapLength after)
          readBlockString quote escapes n read
        else
          skip 1
          let special ← readEscape
          readBlockString quote escapes n (special :: read)
      else if c = '\r' ∧ after.head? = some '\n' then
        skip 2
        readBlockString quote escapes n ('\n' :: '\r' :: read)
      else if c = '\n' ∨ isPlain c then
        skip 1
        readBlockString quote escapes n (c :: read)
      else expected "closing quotes"

/-- A string between some quotes, of which one is left to take. -/
def readQuoted (quote : Char) (escapes : Bool) : Reader String := do
  skip 1
  return String.ofList (← readLineString quote escapes ((← remaining) + 1) [])

/-- A string on one line or on several. A line end right after the opening quotes is left out. -/
def readString (quote : Char) (escapes : Bool) : Reader String := do
  if (List.replicate 3 quote).isPrefixOf (← get).rest then
    skip 3
    let _ ← acceptNewline
    return String.ofList (← readBlockString quote escapes ((← remaining) + 1) [])
  else readQuoted quote escapes

end RestScaffold.Toml.Reader
