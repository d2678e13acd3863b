/-!
# Exact sums

The sum of doubles, rounded once. The running sum is kept without error as partial sums of growing
magnitude; only at the end they are added up.
-/

namespace Inspection.Number

/-- Why a list has no sum. -/
inductive SumFault
  /-- A running sum of finite numbers went beyond the greatest double. -/
  | overflow
  /-- Infinities of both signs cancel each other. -/
  | undefined
deriving Repr, DecidableEq

/-- The fault in words. -/
def SumFault.message : SumFault → String
  | overflow => "intermediate overflow in fsum"
  | undefined => "-inf + inf in fsum"

/-- Whether a double is a number and not an infinity. -/
def isFinite (x : Float) : Bool :=
  !x.isNaN && !x.isInf

/-- Adds a number into partial sums without error. The partial sums come lowest first; the result's
first part is the new highest one. -/
def addPartial (x : Float) : List Float → Float × List Float
  | [] => (x, [])
  | y :: rest =>
    let (big, small) := if x.abs < y.abs then (y, x) else (x, y)
    let high := big + small
    let low := small - (high - big)
    let (top, kept) := addPartial high rest
    (top, if low != 0.0 then low :: kept else kept)

/-- The running sum: partial sums, and what the numbers that are not finite add up to. -/
structure Running where
  partials : List Float
  infinite : Float
  special : Float

/-- Takes one more number. -/
def Running.step (s : Running) (x : Float) : Except SumFault Running :=
  let (top, kept) := addPartial x s.partials
  if top == 0.0 then .ok { s with partials := kept }
  else if isFinite top then .ok { s with partials := kept ++ [top] }
  else if isFinite x then .error .overflow
  else
    .ok ⟨[], if x.isInf then s.infinite + x else s.infinite, s.special + x⟩

/-- Adds up partial sums, highest first, and gives the rounding error of the last addition and the
partial sums that were not needed. -/
def collapse (high : Float) : List Float → Float × Float × List Float
  | [] => (high, 0.0, [])
  | y :: rest =>
    let sum := high + y
    let low := y - (sum - high)
    if low != 0.0 then (sum, low, rest) else collapse sum rest

/-- The nearest double to the total of partial sums; a tie is broken by the partial sums below. -/
def roundPartials (partials : List Float) : Float :=
  match partials.reverse with
  | [] => 0.0
  | top :: rest =>
    match collapse top rest with
    | (high, low, next :: _) =>
      if (low < 0.0 && next < 0.0) || (low > 0.0 && next > 0.0) then
        let twice := low * 2.0
        let moved := high + twice
        if twice == moved - high then moved else high
      else high
    | (high, _, []) => high

/-- The sum of doubles, rounded once. -/
def sum (xs : List Float) : Except SumFault Float := do
  let s ← xs.foldlM Running.step ⟨[], 0.0, 0.0⟩
  if s.special != 0.0 then
    if s.infinite.isNaN then .error .undefined else return s.special
  else return roundPartials s.partials

/-- The mean of doubles: their sum, rounded once, by their number. -/
def mean (xs : List Float) : Except SumFault Float := do
  return (← sum xs) / Float.ofNat xs.length

end Inspection.Number
