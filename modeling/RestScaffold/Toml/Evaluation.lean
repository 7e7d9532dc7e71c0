import RestScaffold.Toml.Document

/-! # The value of a document

A node has a value if all that is read of it has one. A table whose first key is the one of the map
that a date or time counts as is that date or time, and nothing else of it is read.
-/
namespace RestScaffold.Toml

/-- The one key of the map that a date or time counts as. -/
def datetimeKey : String := "$__toml_private_datetime"

/-- The date or time that the text under its key gives, or the place where there is none. -/
def Node.datetime : Node → Except Span Datetime
  | .scalar span (.string s) => match Datetime.ofChars? s.toList with
    | some d => return d
    | none => throw span
  | node => throw node.span

mutual

/-- The value of a node, or the place of the first one inside it that has none. -/
def Node.value : Node → Except Span Value
  | .scalar _ s => return .scalar s
  | .unusable span => throw span
  | .array _ _ items => return .array (← Node.values items)
  | .table _ _ [] => return .table []
  | .table _ _ ((key, node) :: rest) => do
    if key.name = datetimeKey then return .scalar (.datetime (← node.datetime))
    else return .table ((key.name, ← node.value) :: (← Entries.values rest))

def Node.values : List Node → Except Span (List Value)
  | [] => return []
  | node :: rest => return (← node.value) :: (← Node.values rest)

def Entries.values : List (Key × Node) → Except Span (List (String × Value))
  | [] => return []
  | (key, node) :: rest => return (key.name, ← node.value) :: (← Entries.values rest)

end
end RestScaffold.Toml
