import RestScaffold.Schema.FieldType
import RestScaffold.Text.Lowercase

/-! # Schemas

A model as its author declares it: a name, a table if one is named, and fields in order.
-/
namespace RestScaffold

/-- The name `id` in any mix of ASCII cases. -/
def isIdName (name : String) : Bool := name.toList.map Char.toLower == ['i', 'd']

structure Field where
  name : String
  type : FieldType
  /-- The key under which the value is exchanged. -/
  tag : String
  deriving DecidableEq, Repr

namespace Field

/-- The tag of a field that declares none is its name in lower case. -/
def untagged (name : String) (type : FieldType) : Field := ⟨name, type, lowercase name⟩

def withTag (f : Field) (tag : String) : Field := { f with tag }

/-- An empty tag counts as none. -/
def declared (name : String) (type : FieldType) : Option String → Field
  | some tag => if tag.isEmpty then untagged name type else (untagged name type).withTag tag
  | none => untagged name type

def isIdentifier (f : Field) : Bool := isIdName f.name

end Field

structure Schema where
  name : String
  /-- Without a table the name is left to the plural policy. -/
  table : Option String
  fields : List Field
  deriving DecidableEq, Repr

namespace Schema

def empty (name : String) : Schema := ⟨name, none, []⟩

def withTable (s : Schema) (table : String) : Schema := { s with table := some table }

def withField (s : Schema) (f : Field) : Schema := { s with fields := s.fields ++ [f] }

/-- The field that tells records apart: the first one named `id`. -/
def identifier? (s : Schema) : Option Field := s.fields.find? Field.isIdentifier

def field? (s : Schema) (name : String) : Option Field := s.fields.find? (·.name == name)

end Schema
end RestScaffold
