import RestScaffold.Disk.Basic
import RestScaffold.Keyed

/-! # A disk as a value

Directories and regular files under their places, that is, the names that lead to them from the
top. A path is walked name by name from the current directory or from the top, and each name but
the last has to lead to a directory.
-/
namespace RestScaffold

abbrev Place := List String

inductive Entry where
  | directory
  | file (bytes : ByteArray)

instance : DecidableEq Entry
  | .directory, .directory => isTrue rfl
  | .directory, .file _ => isFalse fun h => nomatch h
  | .file _, .directory => isFalse fun h => nomatch h
  | .file bytes, .file other =>
    match ByteArray.decEq bytes other with
    | isTrue h => isTrue (congrArg Entry.file h)
    | isFalse h => isFalse fun he => h (Entry.file.inj he)

structure Disk where
  entries : List (Place × Entry)
  current : Place
  deriving DecidableEq

namespace Disk

/-- Nothing but the top, which is the current directory. -/
def empty : Disk := ⟨[], []⟩

/-- The top is always there. -/
def entry? (d : Disk) (place : Place) : Option Entry :=
  if place = [] then some .directory else d.entries.lookup place

def put (d : Disk) (place : Place) (entry : Entry) : Disk :=
  { d with entries := putKey place entry d.entries }

/-- The most bytes in a name. -/
def maxName : Nat := 255

/-- The most bytes in a path. -/
def maxPath : Nat := 4095

/-- The place of a name in a directory, whether or not it is there. -/
def child (d : Disk) (place : Place) (name : String) : Except Fault Place :=
  match d.entry? place with
  | some .directory =>
    if name.utf8ByteSize ≤ maxName then .ok (place ++ [name]) else .error .nameTooLong
  | some (.file _) => .error .notADirectory
  | none => .error .notFound

/-- The place that some parts of a path lead to. -/
def walk (d : Disk) : Place → List String → Except Fault Place
  | place, [] => .ok place
  | place, part :: rest => do
    let next ← d.child place (if part = "" ∨ part = "." ∨ part = ".." then "" else part)
    if part = "" ∨ part = "." then d.walk place rest
    else if part = ".." then d.walk place.dropLast rest
    else if d.entry? next |>.isNone then throw .notFound
    else d.walk next rest

def checkPath (p : Path) : Except Fault Unit :=
  if p.text.toList.contains (Char.ofNat 0) then .error .zeroInPath
  else if p.text.isEmpty then .error .notFound
  else if maxPath < p.text.utf8ByteSize then .error .nameTooLong
  else .ok ()

/-- Where a path starts and the parts to walk from there. -/
def startOf (d : Disk) (p : Path) : Place × List String :=
  if p.isAbsolute then ([], p.parts.drop 1) else (d.current, p.parts)

def resolve (d : Disk) (p : Path) : Except Fault Place := do
  checkPath p
  let (start, parts) := d.startOf p
  d.walk start parts

def isDir (d : Disk) (p : Path) : Bool :=
  match d.resolve p with
  | .ok place => d.entry? place == some .directory
  | .error _ => false

def hasEntry (d : Disk) (p : Path) : Bool :=
  match d.resolve p with
  | .ok _ => true
  | .error _ => false

/-- The directory that a new entry would go to, and its name; none if the path ends in a dot, in
two, or at the top, and so names a directory that is there. -/
def target (d : Disk) (p : Path) : Except Fault (Option (Place × String)) := do
  checkPath p
  let (start, parts) := d.startOf p
  match parts.reverse.dropWhile (· == "") with
  | [] => return none
  | last :: before =>
    let place ← d.walk start before.reverse
    let _ ← d.child place ""
    if last = "." ∨ last = ".." then return none else return some (place, last)

def makeDir (d : Disk) (p : Path) : Except Fault Disk := do
  match ← d.target p with
  | none => throw .alreadyExists
  | some (place, name) =>
    let new ← d.child place name
    if d.entry? new |>.isSome then throw .alreadyExists
    return d.put new .directory

/-- A path that ends in a separator is taken to mean a directory. -/
def store (d : Disk) (p : Path) (content : String) : Except Fault Disk := do
  match ← d.target p with
  | none => throw .isADirectory
  | some (place, name) =>
    if p.text.toList.getLast? = some '/' then throw .isADirectory
    let file ← d.child place name
    if d.entry? file = some .directory then throw .isADirectory
    return d.put file (.file content.toUTF8)

def load (d : Disk) (p : Path) : Except Fault String := do
  let place ← d.resolve p
  match d.entry? place with
  | some (.file bytes) =>
    match String.fromUTF8? bytes with
    | some content => return content
    | none => throw .invalidText
  | some .directory => throw .isADirectory
  | none => throw .notFound

/-- A step that fails leaves the disk as it was. -/
def attempt (step : Disk → Except Fault Disk) : StateM Disk (Except Fault Unit) := fun d =>
  match step d with
  | .ok changed => (.ok (), changed)
  | .error fault => (.error fault, d)

end Disk

instance : MonadDisk (StateM Disk) where
  makeDir p := Disk.attempt fun d => d.makeDir p
  isDir p := fun d => (d.isDir p, d)
  hasEntry p := fun d => (d.hasEntry p, d)
  store p content := Disk.attempt fun d => d.store p content
  load p := fun d => (d.load p, d)

end RestScaffold
