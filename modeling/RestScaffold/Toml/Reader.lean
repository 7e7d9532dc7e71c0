import RestScaffold.Text.Occurrence

/-! # Reading a text from its start

A reader takes characters off the front of a text and counts the bytes it has passed.
-/
namespace RestScaffold.Toml

structure Cursor where
  rest : List Char
  offset : Nat
  deriving DecidableEq, Repr

/-- Where a text stops being TOML, and what could have come there. -/
structure Malformed where
  offset : Nat
  expected : String
  deriving DecidableEq, Repr

abbrev Reader := StateT Cursor (Except Malformed)

namespace Reader

def expected {α : Type} (what : String) : Reader α := do
  throw ⟨(← get).offset, what⟩

def peek : Reader (Option Char) := return (← get).rest.head?

def offset : Reader Nat := return (← get).offset

/-- How many characters there are still to come, and so a bound on every loop. -/
def remaining : Reader Nat := return (← get).rest.length

/-- What a value is read from, once it has been read. -/
def spanFrom (start : Nat) : Reader Span := return ⟨start, (← get).offset - start⟩

def bytesOf (cs : List Char) : Nat := cs.foldr (fun c n => c.utf8Size + n) 0

/-- Takes up to `n` characters. -/
def take (n : Nat) : Reader (List Char) := do
  let c ← get
  let taken := c.rest.take n
  set (⟨c.rest.drop n, c.offset + bytesOf taken⟩ : Cursor)
  return taken

def skip (n : Nat) : Reader Unit := do
  let _ ← take n

def takeWhile (p : Char → Bool) : Reader (List Char) := do
  take ((← get).rest.takeWhile p).length

def startsWith (text : String) : Reader Bool := return text.toList.isPrefixOf (← get).rest

/-- Takes a given text if it comes next. -/
def accept (text : String) : Reader Bool := do
  if ← startsWith text then
    skip text.length
    return true
  else return false

def require (text : String) : Reader Unit := do
  if !(← accept text) then expected text

/-- Turns the lack of a result into a failure at the place where the reader started. -/
def orExpected {α : Type} (what : String) (start : Nat) : Option α → Reader α
  | some a => return a
  | none => throw ⟨start, what⟩

def isBlankChar (c : Char) : Bool := c == ' ' || c == '\t'

def skipBlanks : Reader Unit := do
  let _ ← takeWhile isBlankChar

/-- No control character but the tab. -/
def isPlain (c : Char) : Bool := c == '\t' || (0x20 ≤ c.toNat && c.toNat != 0x7F)

def acceptNewline : Reader Bool := do
  if ← accept "\n" then return true else accept "\r\n"

def skipComment : Reader Unit := do
  if ← startsWith "#" then
    let _ ← takeWhile isPlain

/-- How many characters of white space, line ends and comments come first. -/
def triviaLength : Bool → List Char → Nat
  | _, '\n' :: rest => 1 + triviaLength false rest
  | _, '\r' :: '\n' :: rest => 2 + triviaLength false rest
  | true, c :: rest => if isPlain c then 1 + triviaLength true rest else 0
  | false, '#' :: rest => 1 + triviaLength true rest
  | false, c :: rest => if isBlankChar c then 1 + triviaLength false rest else 0
  | _, [] => 0

def skipTrivia : Reader Unit := do
  skip (triviaLength false (← get).rest)

end Reader
end RestScaffold.Toml
