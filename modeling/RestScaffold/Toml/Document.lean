import RestScaffold.Text.Occurrence
import RestScaffold.Toml.Value

/-! # TOML documents

A document is a table in which every key and value knows its place in the text. Tables are opened by
headers and by dotted keys, and how a table came about decides what may still be added to it.
-/
namespace RestScaffold.Toml

structure Key where
  name : String
  span : Span
  deriving DecidableEq, Repr

inductive Standing where
  /-- Opened by its own header, or the document itself. -/
  | opened
  /-- Mentioned in the header of a table inside it. -/
  | implied
  /-- Mentioned in a dotted key. -/
  | dotted
  /-- Written between braces and closed for good. -/
  | inline
  deriving DecidableEq, Repr

inductive Node where
  | scalar (span : Span) (value : Scalar)
  /-- A number that is written as one but is out of range or lacks digits. -/
  | unusable (span : Span)
  /-- Tables under headers with double brackets make an array that can still grow. -/
  | array (span : Span) (grows : Bool) (items : List Node)
  | table (span : Span) (standing : Standing) (entries : List (Key × Node))
  deriving Repr

abbrev Entries := List (Key × Node)

def Node.span : Node → Span
  | scalar span _ => span
  | unusable span => span
  | array span _ _ => span
  | table span _ _ => span

namespace Entries

def find? (entries : Entries) (name : String) : Option Node :=
  (List.find? (fun e => e.1.name == name) entries).map (·.2)

/-- A key that is there already keeps its place in the table and in the text. -/
def put (key : Key) (node : Node) : Entries → Entries
  | [] => [(key, node)]
  | entry :: rest =>
    if entry.1.name = key.name then (entry.1, node) :: rest else entry :: put key node rest

/-- A key that is there already is taken out first, so that the last mention gives the place. -/
def putLast (key : Key) (node : Node) (entries : Entries) : Entries :=
  List.filter (fun e => e.1.name != key.name) entries ++ [(key, node)]

/-- Changes the table at the end of a path. Missing tables are made, and of a growing array the last
table is taken. A dotted key does not enter a table that a header opened. -/
def updateAt (dotted : Bool) (change : Standing → Entries → Option Entries) :
    List Key → Standing → Entries → Option Entries
  | [], standing, entries => change standing entries
  | key :: path, _, entries =>
    match entries.find? key.name with
    | none => do
      let standing := if dotted then Standing.dotted else .implied
      let inner ← updateAt dotted change path standing []
      return entries.put key (.table key.span standing inner)
    | some (.table span standing inner) =>
      if standing = .inline ∨ (dotted ∧ standing = .opened) then none
      else do
        let inner ← updateAt dotted change path standing inner
        return entries.put key (.table span standing inner)
    | some (.array span true items) =>
      match items.getLast? with
      | some (.table inside standing inner) => do
        let inner ← updateAt dotted change path standing inner
        return entries.put key
          (.array span true (items.dropLast ++ [.table inside standing inner]))
      | _ => none
    | some _ => none

/-- Adds a value under the last part of a key with some parts before it. -/
def insertValue (path : List Key) (key : Key) (node : Node) :
    Standing → Entries → Option Entries :=
  updateAt true
    (fun standing entries =>
      if (standing = .dotted) = (path = []) ∨ (entries.find? key.name).isSome then none
      else some (entries.put key node))
    path

/-- Opens a table under a header. One that was implied before moves to where its own header is. -/
def openTable (span : Span) (path : List Key) (key : Key) : Entries → Option Entries :=
  updateAt false
    (fun _ entries =>
      match entries.find? key.name with
      | none => some (entries.put key (.table span .opened []))
      | some (.table _ .implied inner) => some (entries.putLast key (.table span .opened inner))
      | some _ => none)
    path .opened

/-- Opens a new table at the end of a growing array. -/
def openItem (span : Span) (path : List Key) (key : Key) : Entries → Option Entries :=
  let item := Node.table span .opened []
  updateAt false
    (fun _ entries =>
      match entries.find? key.name with
      | none => some (entries.put key (.array span true [item]))
      | some (.array whole true items) =>
        some (entries.put key (.array whole true (items ++ [item])))
      | some _ => none)
    path .opened

end Entries
end RestScaffold.Toml
