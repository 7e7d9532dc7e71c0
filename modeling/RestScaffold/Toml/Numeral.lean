import RestScaffold.Toml.Value

/-! # Numerals

Whether a text is a numeral is seen from its form. A numeral may still have no value: one that is
out of range, one without digits, or one with a letter among its digits.
-/
namespace RestScaffold.Toml

/-- A numeral without its underscores. -/
inductive Numeral where
  /-- The digits may have a sign in front. -/
  | integer (base : Nat) (digits : List Char)
  | float (text : List Char)
  deriving DecidableEq, Repr

/-- A sign at the start, true being a minus, and the rest. -/
def signThen (cs : List Char) : Bool × List Char :=
  match cs with
  | '-' :: rest => (true, rest)
  | '+' :: rest => (false, rest)
  | _ => (false, cs)

def digitValue (c : Char) : Nat :=
  if c.isDigit then c.toNat - '0'.toNat else c.toLower.toNat - 'a'.toNat + 10

def isHexDigit (c : Char) : Bool :=
  c.isDigit || ('a' ≤ c && c ≤ 'f') || ('A' ≤ c && c ≤ 'F')

def isDigitIn (base : Nat) (c : Char) : Bool := isHexDigit c && digitValue c < base

def isExponentMark (c : Char) : Bool := c == 'e' || c == 'E'

def numberInBase (base : Nat) (digits : List Char) : Nat :=
  digits.foldl (fun n c => base * n + digitValue c) 0

namespace Numeral

def isRunChar (c : Char) : Bool := c.isDigit || c == '_'

def hasDigit (cs : List Char) : Bool := cs.any Char.isDigit

/-- Whether every underscore has a digit on either side, when the text follows one or does not. -/
def underscoresFit (isDigit : Char → Bool) : Bool → List Char → Bool
  | _, [] => true
  | afterDigit, '_' :: rest =>
    afterDigit && (rest.head?.map isDigit).getD false && underscoresFit isDigit false rest
  | _, c :: rest => underscoresFit isDigit (isDigit c) rest

def withoutUnderscores (cs : List Char) : List Char := cs.filter (· != '_')

/-- Whether more digits follow a zero in front. -/
def hasLeadingZero (digits : List Char) : Bool :=
  digits.head? == some '0' && 1 < (digits.filter Char.isDigit).length

/-- Nothing, or an exponent with an optional sign. -/
def isExponent : List Char → Bool
  | [] => true
  | mark :: cs =>
    let digits := (signThen cs).2
    isExponentMark mark && digits.all isRunChar && hasDigit digits

/-- Nothing, or a point with digits after it, and then perhaps an exponent. -/
def isFraction : List Char → Bool
  | '.' :: cs => hasDigit (cs.takeWhile isRunChar) && isExponent (cs.dropWhile isRunChar)
  | cs => isExponent cs

/-- A number without its sign. -/
def isFloat (number : List Char) : Bool :=
  let whole := number.takeWhile isRunChar
  hasDigit whole && !hasLeadingZero whole && isFraction (number.dropWhile isRunChar)

/-- The digits after the mark of their base. -/
def inBase? (base : Nat) (digits : List Char) : Option Numeral :=
  let fits := digits.all (fun c => c == '_' || isDigitIn base c)
    && underscoresFit isHexDigit false digits
  if fits then some (.integer base (withoutUnderscores digits)) else none

/-- A sign counts as a digit for the underscore after it. -/
def decimal? (cs : List Char) : Option Numeral :=
  let number := (signThen cs).2
  let signed := number.length < cs.length
  let rest := number.dropWhile Char.isDigit
  let text := withoutUnderscores cs
  if rest.any fun c => c == '.' || isExponentMark c then
    if isFloat number && underscoresFit Char.isDigit signed number then some (.float text)
    else none
  else if number.isEmpty || (rest.head?.map (· != '_')).getD false || hasLeadingZero number then
    none
  else if underscoresFit isHexDigit signed number then some (.integer 10 text)
  else none

/-- Only a decimal numeral has a sign. -/
def ofChars? : List Char → Option Numeral
  | '0' :: 'x' :: rest => inBase? 16 rest
  | '0' :: 'o' :: rest => inBase? 8 rest
  | '0' :: 'b' :: rest => inBase? 2 rest
  | cs => decimal? cs

def inRange? (i : Int) : Option Int :=
  if -0x8000000000000000 ≤ i ∧ i < 0x8000000000000000 then some i else none

def integer? (base : Nat) (cs : List Char) : Option Int :=
  let (negative, digits) := signThen cs
  if digits.isEmpty || !digits.all (isDigitIn base) then none
  else
    let n : Int := numberInBase base digits
    inRange? (if negative then -n else n)

/-- The exponent of ten that a text ends with, zero if it has none. -/
def exponentOf (cs : List Char) : Int :=
  let (negative, digits) := signThen (cs.drop 1)
  let n : Int := numberOf digits
  if negative then -n else n

/-- The number that is nearest, if it is in range. -/
def float? (cs : List Char) : Option Binary64 :=
  let (negative, number) := signThen cs
  let mantissa := number.takeWhile fun c => !isExponentMark c
  let fraction := (mantissa.dropWhile (· != '.')).drop 1
  let digits := mantissa.filter (· != '.')
  Binary64.ofDecimal? negative (numberOf digits) digits.length
    (exponentOf (number.dropWhile fun c => !isExponentMark c) - fraction.length)

def value? : Numeral → Option Scalar
  | integer base digits => (integer? base digits).map .integer
  | float text => (float? text).map .float

end Numeral
end RestScaffold.Toml
