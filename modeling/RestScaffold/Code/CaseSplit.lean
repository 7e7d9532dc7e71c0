import RestScaffold.Code.Fragment

/-! # Case splits

A `match` whose arms are single expressions.
-/
namespace RestScaffold

structure Arm where
  pattern : String
  value : String
  deriving DecidableEq, Repr

structure CaseSplit where
  /-- What the value is bound to; a split that binds its value is a statement. -/
  target : Option String
  scrutinee : String
  arms : List Arm
  deriving DecidableEq, Repr

namespace CaseSplit

def header (s : CaseSplit) : String :=
  match s.target with
  | some target => target ++ " match " ++ s.scrutinee ++ " \x7b"
  | none => "match " ++ s.scrutinee ++ " \x7b"

def close (s : CaseSplit) : String := if s.target.isSome then "\x7d;" else "\x7d"

def fragments (s : CaseSplit) : List Fragment :=
  [.block s.header (s.arms.map fun a => .line (a.pattern ++ " => " ++ a.value ++ ","))
    (some s.close)]

end CaseSplit
end RestScaffold
