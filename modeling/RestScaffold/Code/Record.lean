import RestScaffold.Code.Function

/-! # Records

A public data type with named public fields.
-/
namespace RestScaffold

structure RecordField where
  name : String
  type : String
  doc : Option String
  attributes : List String
  deriving DecidableEq, Repr

structure Record where
  name : String
  doc : Option String
  derives : List String
  fields : List RecordField
  deriving DecidableEq, Repr

def RecordField.fragments (f : RecordField) : List Fragment :=
  docFragments f.doc ++ f.attributes.map attributeLine
    ++ [.line ("pub " ++ f.name ++ ": " ++ f.type ++ ",")]

namespace Record

def deriveFragments (r : Record) : List Fragment :=
  if r.derives.isEmpty then []
  else [attributeLine ("derive(" ++ String.intercalate ", " r.derives ++ ")")]

def fragments (r : Record) : List Fragment :=
  docFragments r.doc ++ r.deriveFragments
    ++ if r.fields.isEmpty then [.line ("pub struct " ++ r.name ++ " \x7b\x7d")]
      else [.block ("pub struct " ++ r.name ++ " \x7b") (r.fields.flatMap RecordField.fragments)
        (some "\x7d")]

end Record
end RestScaffold
