import RestScaffold.Code.Fragment

/-! # Functions

A signature stands on one line if that line is not too wide, else each parameter has its own.
-/
namespace RestScaffold

structure Parameter where
  name : String
  type : String
  deriving DecidableEq, Repr

def Parameter.text (p : Parameter) : String := p.name ++ ": " ++ p.type

structure FunctionItem where
  name : String
  doc : Option String
  attributes : List String
  isPublic : Bool
  isAsync : Bool
  parameters : List Parameter
  result : Option String
  body : List Fragment
  deriving Repr

/-- An attribute on a line of its own. -/
def attributeLine (content : String) : Fragment := .line ("#[" ++ content ++ "]")

/-- The documentation of an item, if it has any. -/
def docFragments : Option String → List Fragment
  | some text => [.doc text]
  | none => []

namespace FunctionItem

/-- The most bytes that a signature on one line may have. -/
def maxSignatureWidth : Nat := 100

/-- A public function without parameters, result or body. -/
def new (name : String) : FunctionItem := ⟨name, none, [], true, false, [], none, []⟩

def withBody (f : FunctionItem) (fragments : List Fragment) : FunctionItem :=
  { f with body := f.body ++ fragments }

def header (f : FunctionItem) : String :=
  (if f.isPublic then "pub " else "") ++ (if f.isAsync then "async " else "") ++ "fn " ++ f.name

def resultText (f : FunctionItem) : String :=
  match f.result with
  | some type => " -> " ++ type
  | none => ""

def inlineSignature (f : FunctionItem) : String :=
  f.header ++ "(" ++ String.intercalate ", " (f.parameters.map Parameter.text) ++ ")"
    ++ f.resultText ++ " \x7b"

def signature (f : FunctionItem) : List Fragment :=
  if f.inlineSignature.utf8ByteSize ≤ maxSignatureWidth then [.line f.inlineSignature]
  else [
    .line (f.header ++ "("),
    .indent (f.parameters.map fun p => .line (p.text ++ ",")),
    .line (")" ++ f.resultText ++ " \x7b")]

def fragments (f : FunctionItem) : List Fragment :=
  docFragments f.doc ++ f.attributes.map attributeLine ++ f.signature
    ++ [.indent f.body, .line "\x7d"]

end FunctionItem
end RestScaffold
