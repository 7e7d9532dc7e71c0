import RestScaffold.Naming.Keyword
import RestScaffold.Text.Words

/-! # Naming conventions

How a target language spells the name of a field, and what becomes of the words it keeps for itself.
-/
namespace RestScaffold

structure Convention where
  transform : String → String
  /-- The words that need an escape. -/
  reserved : List String
  /-- The words that cannot be used at all. -/
  forbidden : List String
  escape : String → String

namespace Convention

def isReserved (c : Convention) (name : String) : Bool := c.reserved.contains name

def isForbidden (c : Convention) (name : String) : Bool := c.forbidden.contains name

def safeName (c : Convention) (name : String) : String :=
  if c.isReserved name then c.escape name else name

/-- The name of a field in storage, where nothing is escaped. -/
def columnName (c : Convention) (name : String) : String := c.transform name

/-- The name of a field in code. -/
def fieldName (c : Convention) (name : String) : String := c.safeName (c.columnName name)

/-- Marks a word as a name in spite of its being a keyword. -/
def rawIdentifier (name : String) : String := "r#" ++ name

/-- The convention of the generated service. -/
def service : Convention where
  transform := snakeCase
  reserved := reservedWords
  forbidden := forbiddenWords
  escape := rawIdentifier

end Convention
end RestScaffold
