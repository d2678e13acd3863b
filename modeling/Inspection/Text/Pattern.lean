import Inspection.Text.Blank
import Inspection.Text.Identifier

/-!
# Patterns

Plain patterns that a text is searched for: characters, classes of characters, repetitions of one
of them, and the two ends of the text. The end of the text is also before a line break that ends it.
-/

namespace Inspection.Text

/-- A set of characters. -/
inductive CharSet
  | range (first last : Char)
  | digit
  | word
  | blank
deriving Repr, DecidableEq

/-- Whether a character is in the set. -/
def CharSet.contains (s : CharSet) (c : Char) : Bool :=
  match s with
  | range first last => first.toNat ≤ c.toNat && c.toNat ≤ last.toNat
  | digit => c.isDigit
  | word => isWordPart c
  | blank => isBlank c

/-- The characters of some sets, or all others. -/
structure CharClass where
  negated : Bool
  sets : List CharSet
deriving Repr, DecidableEq

/-- Whether a character is in the class. -/
def CharClass.contains (k : CharClass) (c : Char) : Bool :=
  (k.sets.any fun s => s.contains c) != k.negated

/-- A part of a pattern. -/
inductive PatternPart
  | start
  | finish
  | one (k : CharClass)
  | optional (k : CharClass)
  | many (k : CharClass)
deriving Repr, DecidableEq

/-- A pattern: its parts in order. -/
abbrev Pattern := List PatternPart

namespace Pattern

/-- Whether the pattern fits the text from here on; `atStart` tells whether the text starts here. -/
def fits (parts : Pattern) (atStart : Bool) (cs : List Char) : Bool :=
  match parts, cs with
  | [], _ => true
  | .start :: rest, cs => atStart && fits rest atStart cs
  | .finish :: rest, cs => (cs = [] || cs = ['\n']) && fits rest atStart cs
  | .one k :: rest, c :: cs => k.contains c && fits rest false cs
  | .one _ :: _, [] => false
  | .optional k :: rest, c :: cs =>
    (k.contains c && fits rest false cs) || fits rest atStart (c :: cs)
  | .optional _ :: rest, [] => fits rest atStart []
  | .many k :: rest, c :: cs =>
    (k.contains c && fits (.many k :: rest) false cs) || fits rest atStart (c :: cs)
  | .many _ :: rest, [] => fits rest atStart []
termination_by parts.length + cs.length

/-- Whether the pattern fits somewhere in a text. -/
def fitsWithin (p : Pattern) (atStart : Bool) : List Char → Bool
  | [] => p.fits atStart []
  | c :: cs => p.fits atStart (c :: cs) || p.fitsWithin false cs

/-- Whether a text holds what the pattern describes. -/
def isFoundIn (p : Pattern) (s : String) : Bool :=
  p.fitsWithin true s.toList

/-- The set that a character after a backslash stands for. -/
def escapedSet (c : Char) : CharSet :=
  if c = 'd' then .digit
  else if c = 'w' then .word
  else if c = 's' then .blank
  else if c = 'n' then .range '\n' '\n'
  else if c = 't' then .range '\t' '\t'
  else .range c c

/-- The sets of a class up to its closing bracket, and the text after it. -/
def readSets : List Char → Option (List CharSet × List Char)
  | [] => none
  | ']' :: cs => some ([], cs)
  | '\\' :: c :: cs => (readSets cs).map fun (sets, rest) => (escapedSet c :: sets, rest)
  | a :: '-' :: ']' :: cs => some ([.range a a, .range '-' '-'], cs)
  | a :: '-' :: b :: cs => (readSets cs).map fun (sets, rest) => (.range a b :: sets, rest)
  | c :: cs => (readSets cs).map fun (sets, rest) => (.range c c :: sets, rest)

/-- What a class takes up to its repetition sign: one character, or as the sign says. -/
def repeated (k : CharClass) : List Char → Pattern × List Char
  | '*' :: cs => ([.many k], cs)
  | '+' :: cs => ([.one k, .many k], cs)
  | '?' :: cs => ([.optional k], cs)
  | cs => ([.one k], cs)

/-- The class at the start of a pattern's text, and the text after it. -/
def readClass : List Char → Option (CharClass × List Char)
  | '[' :: '^' :: cs => (readSets cs).map fun (sets, rest) => (⟨true, sets⟩, rest)
  | '[' :: cs => (readSets cs).map fun (sets, rest) => (⟨false, sets⟩, rest)
  | '.' :: cs => some (⟨true, [.range '\n' '\n']⟩, cs)
  | '\\' :: c :: cs => some (⟨false, [escapedSet c]⟩, cs)
  | c :: cs =>
    if c ∈ ['(', ')', '|', '*', '+', '?', '\x7b', '\x7d', '\\'] then none
    else some (⟨false, [.range c c]⟩, cs)
  | [] => none

/-- The parts that the text of a pattern writes. -/
def readParts : (fuel : Nat) → List Char → Option Pattern
  | _, [] => some []
  | 0, _ => none
  | fuel + 1, '^' :: cs => (readParts fuel cs).map (.start :: ·)
  | fuel + 1, '$' :: cs => (readParts fuel cs).map (.finish :: ·)
  | fuel + 1, cs => do
    let (k, rest) ← readClass cs
    let (parts, rest) := repeated k rest
    return parts ++ (← readParts fuel rest)

/-- The pattern that a text writes, if it is a plain one. -/
def read (s : String) : Option Pattern :=
  readParts s.length s.toList

end Pattern

end Inspection.Text
