/-!
# Sets of code points as runs

A large set of code points is kept as the lengths of its alternating runs: so many code points
outside the set, then so many inside, and so on. The lengths are written in base 36, parted by
spaces.
-/

namespace Inspection.Text

/-- The value of a base-36 digit; other characters count as zero. -/
def digit36 (c : Char) : Nat :=
  if c.isDigit then c.toNat - '0'.toNat
  else if 'a' ≤ c ∧ c ≤ 'z' then c.toNat - 'a'.toNat + 10
  else 0

/-- The numbers of a line that writes them in base 36 with one space between two of them. -/
def lineNumbers36 (s : String) : List Nat :=
  let (all, last) := s.toList.foldl
    (fun (all, n) c => if c = ' ' then (n :: all, 0) else (all, n * 36 + digit36 c)) ([], 0)
  (last :: all).reverse

/-- The numbers of some lines. -/
def numbers36 (lines : List String) : List Nat :=
  lines.flatMap lineNumbers36

/-- Whether a position lies inside one of the runs, the first of which is outside. -/
def inRuns : List Nat → Nat → Bool
  | outside :: inside :: rest, n =>
    if n < outside then false
    else if n < outside + inside then true
    else inRuns rest (n - outside - inside)
  | _, _ => false

end Inspection.Text
