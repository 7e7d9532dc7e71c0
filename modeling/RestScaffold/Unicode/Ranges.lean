/-! # Tables of code points

A class of characters is a flat list of code points in ascending order, two to a range or three to
a run, and `covers` and `coversRun` look a code point up in it.
-/
namespace RestScaffold.Unicode

/-- Membership in a table that lists the first and the last code point of each range. -/
def covers : List Nat → Nat → Bool
  | first :: last :: rest, n =>
    if n < first then false else if n ≤ last then true else covers rest n
  | _, _ => false

/-- Membership in a table that lists the first code point, the last one and the step of each run. -/
def coversRun : List Nat → Nat → Bool
  | first :: last :: step :: rest, n =>
    (first ≤ n && n ≤ last && (n - first) % step == 0) || coversRun rest n
  | _, _ => false

end RestScaffold.Unicode
