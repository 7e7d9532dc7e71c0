import RestScaffold.Toml.Document
import RestScaffold.Toml.Scalar
import RestScaffold.Toml.Strings

/-! # Parsing TOML

A document is read expression by expression, each of which opens a table or adds one value.
-/
namespace RestScaffold.Toml
namespace Reader

/-- How deep arrays and inline tables may be nested, and how many parts a key may have. -/
def maxNesting : Nat := 80

def isBareKeyChar (c : Char) : Bool := c.isAlphanum || c == '_' || c == '-'

def readSimpleKey : Reader Key := do
  let start ← offset
  match ← peek with
  | some '"' =>
    let name ← readQuoted '"' true
    return ⟨name, ← spanFrom start⟩
  | some '\x27' =>
    let name ← readQuoted '\x27' false
    return ⟨name, ← spanFrom start⟩
  | _ =>
    let name ← takeWhile isBareKeyChar
    if name.isEmpty then expected "a key"
    else return ⟨String.ofList name, ← spanFrom start⟩

/-- The parts of a dotted key before its last one, and the last one. -/
def readKeyFrom : Nat → List Key → Reader (List Key × Key)
  | 0, _ => expected "a shorter key"
  | n + 1, path => do
    let key ← readSimpleKey
    skipBlanks
    if ← accept "." then
      skipBlanks
      readKeyFrom n (path ++ [key])
    else return (path, key)

def readKey : Reader (List Key × Key) := readKeyFrom maxNesting []

/-- Whether a scalar is a date that a space and a time may follow. -/
def isDateText (cs : List Char) : Bool :=
  match Datetime.readDate? cs with
  | some (_, rest) => rest.isEmpty
  | none => false

def readBareScalar : Reader Node := do
  let start ← offset
  let first ← takeWhile isScalarChar
  let rest := (← get).rest
  let whole ←
    if isDateText first && rest.head? == some ' '
        && ((rest.drop 1).head?.map Char.isDigit).getD false then do
      skip 1
      pure (first ++ ' ' :: (← takeWhile isScalarChar))
    else pure first
  let span ← spanFrom start
  match word? whole, Numeral.ofChars? whole with
  | some value, _ => return .scalar span value
  | none, some numeral => return (numeral.value?.map (Node.scalar span)).getD (.unusable span)
  | none, none => throw ⟨start, "a value"⟩

def readScalar : Reader Node := do
  let start ← offset
  match ← peek with
  | some '"' =>
    let text ← readString '"' true
    return .scalar (← spanFrom start) (.string text)
  | some '\x27' =>
    let text ← readString '\x27' false
    return .scalar (← spanFrom start) (.string text)
  | _ => readBareScalar

/-- The items of an array up to the closing bracket. -/
def readItems (item : Reader Node) : Nat → List Node → Reader (List Node)
  | 0, _ => expected "]"
  | n + 1, items => do
    skipTrivia
    if ← accept "]" then return items
    let next ← item
    skipTrivia
    if ← accept "," then readItems item n (items ++ [next])
    else
      require "]"
      return items ++ [next]

/-- A key and its value, with what may be skipped before and after the sign between them. -/
def readKeyValue (gap : Reader Unit) (value : Reader Node) : Reader (List Key × Key × Node) := do
  let (path, key) ← readKey
  gap
  require "="
  gap
  let node ← value
  return (path, key, node)

/-- The entries of an inline table up to the closing brace. -/
def readEntries (value : Reader Node) : Nat → Entries → Reader Entries
  | 0, _ => expected "\x7d"
  | n + 1, entries => do
    skipTrivia
    if ← accept "\x7d" then return entries
    let start ← offset
    let (path, key, node) ← readKeyValue skipTrivia value
    let entries ← orExpected "a new key" start (Entries.insertValue path key node .inline entries)
    skipTrivia
    if ← accept "," then readEntries value n entries
    else
      require "\x7d"
      return entries

/-- A value that may hold others down to a number of levels. -/
def readValue : Nat → Reader Node
  | 0 => do
    match ← peek with
    | some '[' => expected "fewer levels"
    | some '\x7b' => expected "fewer levels"
    | _ => readScalar
  | levels + 1 => do
    let start ← offset
    match ← peek with
    | some '[' =>
      skip 1
      let items ← readItems (readValue levels) ((← remaining) + 1) []
      return .array (← spanFrom start) false items
    | some '\x7b' =>
      skip 1
      let entries ← readEntries (readValue levels) ((← remaining) + 1) []
      return .table (← spanFrom start) .inline entries
    | _ => readScalar

/-- The table that values are added to, as the header that opened it names it. -/
abbrev Current := List Key

def endLine : Reader Unit := do
  skipBlanks
  skipComment
  if !(← acceptNewline) && !(← get).rest.isEmpty then expected "the end of the line"

def readHeader (root : Entries) : Reader (Entries × Current) := do
  let start ← offset
  skip 1
  let isItem ← accept "["
  skipBlanks
  let (path, key) ← readKey
  skipBlanks
  require (if isItem then "]]" else "]")
  let span ← spanFrom start
  let opened := if isItem then root.openItem span path key else root.openTable span path key
  let root ← orExpected "a new table" start opened
  return (root, path ++ [key])

def readAssignment (root : Entries) (current : Current) : Reader Entries := do
  let start ← offset
  let (path, key, node) ← readKeyValue skipBlanks (readValue maxNesting)
  orExpected "a new key" start
    (root.updateAt false (Entries.insertValue path key node) current .opened)

def readDocument : Nat → Entries → Current → Reader Entries
  | 0, root, _ => return root
  | n + 1, root, current => do
    skipBlanks
    match ← peek with
    | none => return root
    | some '[' =>
      let (root, current) ← readHeader root
      endLine
      readDocument n root current
    | some c =>
      let root ← if c = '#' ∨ c = '\n' ∨ c = '\r' then pure root else readAssignment root current
      endLine
      readDocument n root current

end Reader

def byteOrderMark : String := String.singleton (Char.ofNat 0xFEFF)

/-- Reads a whole text. A byte order mark in front of it is passed over. -/
def parse (text : String) : Except Malformed Entries :=
  let reader : Reader Entries := do
    let _ ← Reader.accept byteOrderMark
    Reader.readDocument ((← Reader.remaining) + 1) [] []
  reader.run' ⟨text.toList, 0⟩

end RestScaffold.Toml
