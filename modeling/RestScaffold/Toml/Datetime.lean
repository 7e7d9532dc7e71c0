import RestScaffold.Text.Split

/-! # Dates and times

A date, a time of day, or both with an offset from universal time if one is given. Of the fraction
of a second nine digits are kept.
-/
namespace RestScaffold

structure Date where
  year : Nat
  month : Nat
  day : Nat
  deriving DecidableEq, Repr

structure Time where
  hour : Nat
  minute : Nat
  second : Nat
  nanosecond : Nat
  deriving DecidableEq, Repr

inductive Offset where
  | universal
  /-- Minutes ahead of universal time. -/
  | ahead (minutes : Int)
  deriving DecidableEq, Repr

inductive Datetime where
  | date (d : Date)
  | time (t : Time)
  | moment (d : Date) (t : Time) (offset : Option Offset)
  deriving DecidableEq, Repr

namespace Date

def isLeapYear (year : Nat) : Bool := year % 4 == 0 && (year % 100 != 0 || year % 400 == 0)

def daysIn (year month : Nat) : Nat :=
  if month = 2 then if isLeapYear year then 29 else 28
  else if month = 4 ∨ month = 6 ∨ month = 9 ∨ month = 11 then 30
  else 31

def isValid (d : Date) : Bool :=
  1 ≤ d.month && d.month ≤ 12 && 1 ≤ d.day && d.day ≤ daysIn d.year d.month

end Date

/-- The number that decimal digits spell. -/
def numberOf (digits : List Char) : Nat :=
  digits.foldl (fun n c => 10 * n + (c.toNat - '0'.toNat)) 0

/-- Exactly `n` digits at the start of a text, and the rest of it. -/
def digitsThen? (n : Nat) (cs : List Char) : Option (Nat × List Char) :=
  if (cs.take n).length = n ∧ (cs.take n).all Char.isDigit then
    some (numberOf (cs.take n), cs.drop n)
  else none

/-- A given character at the start of a text, and the rest of it. -/
def charThen? (c : Char) : List Char → Option (List Char)
  | first :: rest => if first = c then some rest else none
  | [] => none

/-- A second may be the sixtieth, for leap seconds. -/
def Time.isValid (t : Time) : Bool := t.hour ≤ 23 && t.minute ≤ 59 && t.second ≤ 60

/-- The first nine digits of a fraction as nanoseconds. -/
def nanosecondsOf (digits : List Char) : Nat :=
  numberOf ((digits ++ List.replicate 9 '0').take 9)

namespace Datetime

def readDate? (cs : List Char) : Option (Date × List Char) := do
  let (year, cs) ← digitsThen? 4 cs
  let cs ← charThen? '-' cs
  let (month, cs) ← digitsThen? 2 cs
  let cs ← charThen? '-' cs
  let (day, cs) ← digitsThen? 2 cs
  let d : Date := ⟨year, month, day⟩
  if d.isValid then some (d, cs) else none

/-- The fraction of a second, if a point starts one. -/
def readFraction? (cs : List Char) : Option (Nat × List Char) :=
  match cs with
  | '.' :: rest =>
    let digits := rest.takeWhile Char.isDigit
    if digits.isEmpty then none else some (nanosecondsOf digits, rest.dropWhile Char.isDigit)
  | _ => some (0, cs)

/-- The seconds may be left out. -/
def readTime? (cs : List Char) : Option (Time × List Char) := do
  let (hour, cs) ← digitsThen? 2 cs
  let cs ← charThen? ':' cs
  let (minute, cs) ← digitsThen? 2 cs
  let (second, nanosecond, cs) ←
    match cs with
    | ':' :: rest => do
      let (second, cs) ← digitsThen? 2 rest
      let (nanosecond, cs) ← readFraction? cs
      some (second, nanosecond, cs)
    | _ => some (0, 0, cs)
  let t : Time := ⟨hour, minute, second, nanosecond⟩
  if t.isValid then some (t, cs) else none

def readOffset? : List Char → Option (Option Offset)
  | [] => some none
  | ['Z'] => some (some .universal)
  | ['z'] => some (some .universal)
  | sign :: cs => do
    let (hours, cs) ← digitsThen? 2 cs
    let cs ← charThen? ':' cs
    let (minutes, cs) ← digitsThen? 2 cs
    if !cs.isEmpty || 23 < hours || 59 < minutes then none
    else
      let total : Int := 60 * hours + minutes
      if sign = '+' then some (some (.ahead total))
      else if sign = '-' then some (some (.ahead (-total)))
      else none

/-- Between date and time stands a `T` of either case or a space. -/
def ofChars? (cs : List Char) : Option Datetime :=
  match readDate? cs with
  | some (d, []) => some (.date d)
  | some (d, sep :: rest) => do
    if sep = 'T' ∨ sep = 't' ∨ sep = ' ' then
      let (t, rest) ← readTime? rest
      let offset ← readOffset? rest
      some (.moment d t offset)
    else none
  | none => do
    let (t, rest) ← readTime? cs
    if rest.isEmpty then some (.time t) else none

/-- At least `width` digits, with zeros in front. -/
def padded (width n : Nat) : String :=
  let digits := toString n
  String.ofList (List.replicate (width - digits.length) '0') ++ digits

def dateText (d : Date) : String :=
  padded 4 d.year ++ "-" ++ padded 2 d.month ++ "-" ++ padded 2 d.day

/-- A fraction is shown without the zeros at its end, and not at all if it is zero. -/
def fractionText (nanosecond : Nat) : String :=
  if nanosecond = 0 then ""
  else
    "." ++ String.ofList ((padded 9 nanosecond).toList.reverse.dropWhile (· == '0')).reverse

def timeText (t : Time) : String :=
  padded 2 t.hour ++ ":" ++ padded 2 t.minute ++ ":" ++ padded 2 t.second
    ++ fractionText t.nanosecond

def offsetText : Offset → String
  | .universal => "Z"
  | .ahead minutes =>
    (if minutes < 0 then "-" else "+") ++ padded 2 (minutes.natAbs / 60) ++ ":"
      ++ padded 2 (minutes.natAbs % 60)

def text : Datetime → String
  | date d => dateText d
  | time t => timeText t
  | moment d t offset =>
    dateText d ++ "T" ++ timeText t ++ (offset.map offsetText).getD ""

end Datetime
end RestScaffold
