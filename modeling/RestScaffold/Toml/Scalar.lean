import RestScaffold.Toml.Numeral

/-! # Bare words

A value without quotes that is no numeral is a boolean, one of the special numbers, or a date and
time, told apart by its text alone.
-/
namespace RestScaffold.Toml

/-- The characters that no bare value can hold. -/
def scalarEnds : List Char :=
  ['=', ',', '[', ']', '\x7b', '\x7d', ' ', '\t', '#', '\r', '\n', '\x27', '"']

def isScalarChar (c : Char) : Bool := !scalarEnds.contains c

/-- Infinity and what is not a number, with a sign or without. -/
def specialNumber? (cs : List Char) : Option Binary64 :=
  let (negative, rest) := signThen cs
  if rest = ['i', 'n', 'f'] then some (.infinity negative)
  else if rest = ['n', 'a', 'n'] then some (.nan negative)
  else none

def word? (cs : List Char) : Option Scalar :=
  if cs = ['t', 'r', 'u', 'e'] then some (.boolean true)
  else if cs = ['f', 'a', 'l', 's', 'e'] then some (.boolean false)
  else
    match specialNumber? cs with
    | some x => some (.float x)
    | none => (Datetime.ofChars? cs).map .datetime

end RestScaffold.Toml
