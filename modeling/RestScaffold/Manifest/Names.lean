import RestScaffold.Manifest.Basic
import RestScaffold.Naming.Keyword
import RestScaffold.Text.Identifier
import RestScaffold.Text.Lowercase

/-! # The names in a manifest

Models and plurals need names that can be used as identifiers. Each model also gives its name in
lower case to a module, so no two may share that, and it may be no keyword that stays one when it is
escaped.
-/
namespace RestScaffold

inductive NameUse where
  | model | plural
  deriving DecidableEq, Repr

def NameUse.label : NameUse → String
  | model => "model"
  | plural => "plural"

/-- Why a name is no identifier. -/
inductive IdentifierFault where
  | empty | badStart | loneUnderscore | badCharacter
  deriving DecidableEq, Repr

def IdentifierFault.message : IdentifierFault → String
  | empty => "name cannot be empty"
  | badStart => "name must start with a letter or underscore"
  | loneUnderscore => "name cannot be a lone underscore"
  | badCharacter => "name must contain only letters, numbers, and underscores"

def identifierFault? (name : String) : Option IdentifierFault :=
  match name.toList with
  | [] => some .empty
  | c :: rest =>
    if !startsIdentifier c then some .badStart
    else if name = "_" then some .loneUnderscore
    else if rest.all continuesIdentifier then none
    else some .badCharacter

inductive NameFault where
  | emptyOutput
  | keyword (use : NameUse) (name : String)
  | notIdentifier (use : NameUse) (name : String) (reason : IdentifierFault)
  /-- In lower case the name of a model is a word of the module tree. -/
  | pathKeyword (name : String)
  /-- The two are equal in lower case. -/
  | sameModule (first name : String)
  deriving DecidableEq, Repr

namespace NameFault

/-- The word of the manifest that is at fault. -/
def subject : NameFault → String
  | emptyOutput => "output"
  | keyword _ name => name
  | notIdentifier _ name _ => name
  | pathKeyword name => name
  | sameModule _ name => name

def message : NameFault → String
  | emptyOutput => "`output` cannot be empty"
  | keyword _ name => "'" ++ name ++ "' is a Rust reserved keyword"
  | notIdentifier use name _ => "invalid " ++ use.label ++ " name '" ++ name ++ "'"
  | pathKeyword name =>
    "model '" ++ name ++ "' would generate the module `" ++ lowercase name
      ++ "`, which is a path keyword"
  | sameModule first name =>
    "models '" ++ first ++ "' and '" ++ name ++ "' both generate `handlers/" ++ lowercase name
      ++ ".rs`"

end NameFault

def checkName (use : NameUse) (name : String) : Except NameFault Unit :=
  if isKeyword name then .error (.keyword use name)
  else match identifierFault? name with
    | some reason => .error (.notIdentifier use name reason)
    | none => .ok ()

/-- Checks a model that comes after some others. -/
def checkModelName (before : List String) (name : String) : Except NameFault Unit := do
  checkName .model name
  if pathKeywords.contains (lowercase name) then throw (.pathKeyword name)
  match before.find? (fun first => lowercase first == lowercase name) with
  | some first => throw (.sameModule first name)
  | none => return ()

def checkModelNamesAfter : List String → List String → Except NameFault Unit
  | _, [] => return ()
  | before, name :: rest => do
    checkModelName before name
    checkModelNamesAfter (before ++ [name]) rest

/-- The first name that does not go with those before it is at fault. -/
def checkModelNames (names : List String) : Except NameFault Unit := checkModelNamesAfter [] names

def checkPlurals (plurals : List (String × String)) : Except NameFault Unit :=
  plurals.forM fun (singular, plural) => do
    checkName .plural singular
    checkName .plural plural

def Manifest.checkNames (m : Manifest) : Except NameFault Unit := do
  if m.project.output.text.isEmpty then throw .emptyOutput
  checkModelNames (m.models.map (·.1))
  checkPlurals m.plurals

end RestScaffold
