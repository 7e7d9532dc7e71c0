import RestScaffold.Keyed
import RestScaffold.Text.Lowercase
import RestScaffold.Text.Words

/-! # Plurals and the names made from them

A policy turns the name of a model into a variable, a collection, a route and a table. Without an
override the plural is made by its ending alone; each layer of overrides is asked before the policy
inside it.
-/
namespace RestScaffold

/-- Irregular plurals under their lower case singulars, in the order of first mention. -/
structure Overrides where
  entries : List (String × String)
  deriving DecidableEq, Repr

namespace Overrides

def empty : Overrides := ⟨[]⟩

def find? (o : Overrides) (identifier : String) : Option String :=
  o.entries.lookup (lowercase identifier)

def insert (o : Overrides) (singular plural : String) : Overrides :=
  ⟨putKey (lowercase singular) plural o.entries⟩

def ofPairs (pairs : List (String × String)) : Overrides :=
  pairs.foldl (fun o p => o.insert p.1 p.2) empty

def size (o : Overrides) : Nat := o.entries.length

end Overrides

inductive PluralPolicy where
  | naive
  | irregular (overrides : Overrides) (inner : PluralPolicy)
  deriving DecidableEq, Repr

/-- A final `y` becomes `ies`, and any other ending takes an `s`. -/
def naivePlural (identifier : String) : String :=
  match identifier.toList.reverse with
  | 'y' :: stem => String.ofList stem.reverse ++ "ies"
  | _ => identifier ++ "s"

namespace PluralPolicy

/-- An override keeps its spelling unless the identifier is free of upper case letters. -/
def pluralize : PluralPolicy → String → String
  | naive, identifier => naivePlural identifier
  | irregular overrides inner, identifier =>
    match overrides.find? identifier with
    | some plural => if hasUppercase identifier then plural else lowercase plural
    | none => inner.pluralize identifier

def varName (_ : PluralPolicy) (identifier : String) : String := lowercase identifier

def varNamePlural (p : PluralPolicy) (identifier : String) : String :=
  p.pluralize (p.varName identifier)

def pathSegment (p : PluralPolicy) (identifier : String) : String :=
  lowercase (p.pluralize identifier)

/-- An override is looked up before the name is cut into words. -/
def tableName : PluralPolicy → String → String
  | naive, identifier => naivePlural (snakeCase identifier)
  | irregular overrides inner, identifier =>
    match overrides.find? identifier with
    | some plural => snakeCase plural
    | none => inner.tableName identifier

end PluralPolicy

/-- The names made from that of a model, by whatever rules. -/
structure NamingPolicy where
  varName : String → String
  varNamePlural : String → String
  pathSegment : String → String
  tableName : String → String

def PluralPolicy.naming (p : PluralPolicy) : NamingPolicy :=
  ⟨p.varName, p.varNamePlural, p.pathSegment, p.tableName⟩

instance : Coe PluralPolicy NamingPolicy := ⟨PluralPolicy.naming⟩

def NamingPolicy.naive : NamingPolicy := PluralPolicy.naive

end RestScaffold
