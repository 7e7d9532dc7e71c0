/-! # Layouts of the router

All route groups in one router, or a router for each model, of which the last one written stays.
-/
namespace RestScaffold

inductive Layout where
  | combined
  | perModel
  deriving DecidableEq, Repr

namespace Layout

def default : Layout := combined

def all : List Layout := [combined, perModel]

def name : Layout → String
  | combined => "combined"
  | perModel => "per-model"

def ofName? (s : String) : Option Layout := all.find? fun l => l.name == s

/-- What is said of a name that no layout has. -/
def unknownName (s : String) : String :=
  "unknown router layout '" ++ s ++ "', expected 'combined' or 'per-model'"

end Layout
end RestScaffold
