import RestScaffold.Text.Split

/-! # Paths

A path is kept as it was written. Its components leave out what does not matter for where it leads:
repeated separators, and dots other than a leading one.
-/
namespace RestScaffold

structure Path where
  text : String
  deriving DecidableEq, Repr

inductive Component where
  | top
  /-- The leading dot of a relative path. -/
  | here
  | up
  | name (s : String)
  deriving DecidableEq, Repr

/-- A part between separators; the empty one and a single dot lead nowhere. -/
def Component.ofPart : String → Option Component
  | "" => none
  | "." => none
  | ".." => some .up
  | s => some (.name s)

namespace Path

def isAbsolute (p : Path) : Bool := p.text.toList.head? == some '/'

/-- The parts between separators. -/
def parts (p : Path) : List String := splitOnChar '/' p.text

/-- The first part if it stands for the top or for a leading dot, and the other parts. -/
def leadAndBody (p : Path) : List String × List String :=
  match p.parts with
  | "" :: second :: rest => ([""], second :: rest)
  | "." :: rest => (["."], rest)
  | body => ([], body)

def components (p : Path) : List Component :=
  (match p.leadAndBody.1 with
    | [] => []
    | "" :: _ => [.top]
    | _ => [.here])
    ++ p.leadAndBody.2.filterMap Component.ofPart

/-- Two spellings of the same way. -/
def sameAs (p q : Path) : Bool := p.components == q.components

/-- An absolute second path stands for itself. A separator goes between the two unless the first is
empty or ends in one. -/
def join (base p : Path) : Path :=
  if p.isAbsolute then p
  else if base.text.isEmpty || base.text.toList.getLast? == some '/' then ⟨base.text ++ p.text⟩
  else ⟨base.text ++ "/" ++ p.text⟩

def isIdlePart (part : String) : Bool := part == "" || part == "."

/-- The text of the lead and the body of a path. -/
def ofLeadAndBody : List String → List String → Path
  | [""], [] => ⟨"/"⟩
  | lead, body => ⟨String.intercalate "/" (lead ++ body)⟩

/-- The path without its last component, and none if it has no component to leave. -/
def parent (p : Path) : Option Path :=
  match p.leadAndBody.2.reverse.dropWhile isIdlePart with
  | _ :: before =>
    some (ofLeadAndBody p.leadAndBody.1 (before.dropWhile isIdlePart).reverse)
  | [] => if p.leadAndBody.1 = ["."] then some ⟨""⟩ else none

/-- At most `n` paths up from `p`. -/
def ancestorsFrom : Nat → Path → List Path
  | 0, _ => []
  | n + 1, p =>
    match p.parent with
    | none => []
    | some above => p :: ancestorsFrom n above

/-- The path and those above it, each but the top and the empty path. -/
def ancestors (p : Path) : List Path := ancestorsFrom p.components.length p

def Component.text : Component → String
  | .top => ""
  | .here => "."
  | .up => ".."
  | .name s => s

def dropComponents : List Component → List Component → Option (List Component)
  | rest, [] => some rest
  | [], _ :: _ => none
  | c :: rest, b :: base => if c = b then dropComponents rest base else none

/-- The way from `base` to `p`, if `p` is below it. -/
def relativeTo? (p base : Path) : Option Path :=
  (dropComponents p.components base.components).map fun rest =>
    ⟨String.intercalate "/" (rest.map Component.text)⟩

end Path
end RestScaffold
