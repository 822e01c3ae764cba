/-!
# Ranges of code points

A property of characters is stored as sorted, disjoint ranges of code points, both ends included,
and looked up by halving.
-/

namespace LogPipeline.Unicode

/-- Sorted, disjoint ranges, both ends included. -/
abbrev Ranges := Array (Nat × Nat)

/-- The last index below `hi` whose key is at most `n`, counted from `lo`; `lo` if there is none.
The distance of the two bounds at least halves, so its logarithm is fuel enough. -/
def lastAtMost (key : Nat → Nat) (n : Nat) : Nat → Nat → Nat → Nat
  | 0, lo, _ => lo
  | fuel + 1, lo, hi =>
    if hi ≤ lo + 1 then lo
    else
      let mid := (lo + hi) / 2
      if key mid ≤ n then lastAtMost key n fuel mid hi else lastAtMost key n fuel lo mid

def Ranges.contains (r : Ranges) (n : Nat) : Bool :=
  let i := lastAtMost (fun i => (r.getD i (0, 0)).1) n 32 0 r.size
  match r[i]? with
  | some (a, b) => a ≤ n && n ≤ b
  | none => false

end LogPipeline.Unicode
