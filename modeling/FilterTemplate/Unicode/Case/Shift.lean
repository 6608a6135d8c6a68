/-!
# Case mappings by runs

Most characters change case by a fixed distance that a whole run of them shares: every character of
the run, or every second one where the two cases alternate.
-/

namespace FilterTemplate.Unicode

/-- The code points `first`, `first + step`, … up to `last` move by `distance`. -/
structure Shift where
  first : Nat
  last : Nat
  step : Nat
  distance : Int

/-- The code point that one of the ascending runs moves `c` to. -/
def shifted? : List Shift → Nat → Option Nat
  | [], _ => none
  | run :: rest, c =>
    if c < run.first then none
    else if run.last < c then shifted? rest c
    else if (c - run.first) % run.step = 0 then some ((c : Int) + run.distance).toNat
    else none

/-- The code points that the runs move to `c`. -/
def unshifted (runs : List Shift) (c : Nat) : List Nat :=
  runs.filterMap fun run =>
    let origin := ((c : Int) - run.distance).toNat
    if run.first ≤ origin ∧ origin ≤ run.last ∧ (origin - run.first) % run.step = 0 then
      some origin
    else none

end FilterTemplate.Unicode
