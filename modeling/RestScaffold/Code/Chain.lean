import RestScaffold.Code.Fragment

/-! # Chains of calls

A base expression, the calls made on it one after the other, and what follows the last one.
-/
namespace RestScaffold

structure Call where
  name : String
  args : List String
  deriving DecidableEq, Repr

def Call.text (c : Call) : String := "." ++ c.name ++ "(" ++ String.intercalate ", " c.args ++ ")"

inductive Terminator where
  /-- The chain is a statement. -/
  | semicolon
  /-- The chain is one of several arguments. -/
  | comma
  deriving DecidableEq, Repr

def Terminator.text : Terminator → String
  | semicolon => ";"
  | comma => ","

structure Chain where
  /-- What the value is bound to, such as `let result =`. -/
  target : Option String
  base : String
  calls : List Call
  awaited : Bool
  /-- Failure is handed on to the caller. -/
  tried : Bool
  terminator : Option Terminator
  deriving DecidableEq, Repr

namespace Chain

def new (base : String) : Chain := ⟨none, base, [], false, false, none⟩

def assign (c : Chain) (target : String) : Chain := { c with target := some target }

def callArgs (c : Chain) (name : String) (args : List String) : Chain :=
  { c with calls := c.calls ++ [⟨name, args⟩] }

def call (c : Chain) (name : String) : Chain := c.callArgs name []

def callArg (c : Chain) (name arg : String) : Chain := c.callArgs name [arg]

/-- One call for each argument. -/
def callEach (c : Chain) (name : String) (args : List String) : Chain :=
  args.foldl (fun c arg => c.callArg name arg) c

def await (c : Chain) : Chain := { c with awaited := true }

def orReturn (c : Chain) : Chain := { c with tried := true }

def statement (c : Chain) : Chain := { c with terminator := some .semicolon }

def argument (c : Chain) : Chain := { c with terminator := some .comma }

def head (c : Chain) : String :=
  match c.target with
  | some target => target ++ " " ++ c.base
  | none => c.base

def awaitText (c : Chain) : String := if c.awaited then ".await" else ""

def ending (c : Chain) : String :=
  (if c.tried then "?" else "") ++ (c.terminator.map Terminator.text).getD ""

/-- The chain on one line. -/
def inline (c : Chain) : String :=
  c.head ++ String.join (c.calls.map Call.text) ++ c.awaitText ++ c.ending

/-- Appends to the last line. -/
def endLast (suffix : String) : List String → List String
  | [] => []
  | [line] => [line ++ suffix]
  | line :: rest => line :: endLast suffix rest

/-- The lines below the base, of which the wait is one. -/
def callLines (c : Chain) : List String :=
  endLast c.ending (c.calls.map Call.text ++ if c.awaited then [".await"] else [])

/-- A chain with calls has a line for each of them. -/
def fragments (c : Chain) : List Fragment :=
  if c.calls.isEmpty then [.line c.inline]
  else [.line c.head, .indent (c.callLines.map .line)]

end Chain
end RestScaffold
