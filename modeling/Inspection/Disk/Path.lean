import Inspection.Text.Blank

/-!
# Paths

Paths of files: names from the root or from the working directory on. Empty names and names of one
point lead nowhere and are left out.
-/

namespace Inspection

/-- A path. -/
structure Path where
  absolute : Bool
  names : List String
deriving Repr, DecidableEq

namespace Path

/-- The parts of a text that slashes part. -/
def parts : List Char → List (List Char)
  | [] => [[]]
  | c :: cs =>
    match c, parts cs with
    | '/', ps => [] :: ps
    | c, [] => [[c]]
    | c, p :: ps => (c :: p) :: ps

/-- The path that a text writes. -/
def ofText (s : String) : Path :=
  ⟨s.toList.head? = some '/', ((parts s.toList).map String.ofList).filter fun n => n ≠ "" ∧ n ≠ "."⟩

/-- The path as text. -/
def text (p : Path) : String :=
  let names := String.intercalate "/" p.names
  if p.absolute then "/" ++ names else if names = "" then "." else names

/-- The path that a second one leads to from a first one; an absolute one leads there by itself. -/
def join (p : Path) (q : Path) : Path :=
  if q.absolute then q else ⟨p.absolute, p.names ++ q.names⟩

/-- The path of a text from a first one. -/
def child (p : Path) (s : String) : Path :=
  p.join (ofText s)

/-- The last name. -/
def name (p : Path) : String :=
  p.names.getLastD ""

/-- The path without its last name. -/
def parent (p : Path) : Path :=
  { p with names := p.names.dropLast }

/-- The last name's parts before and from its last point on; a name that starts or ends with its
last point has no second part. -/
def splitName (p : Path) : String × String :=
  let cs := p.name.toList
  let ending := (cs.reverse.takeWhile (· ≠ '.')).reverse
  let stem := cs.take (cs.length - ending.length - 1)
  if ending.isEmpty || stem.isEmpty || ending.length = cs.length then (p.name, "")
  else (String.ofList stem, String.ofList ('.' :: ending))

/-- The last name without its suffix. -/
def stem (p : Path) : String :=
  p.splitName.1

/-- The suffix of the last name. -/
def suffix (p : Path) : String :=
  p.splitName.2

end Path

end Inspection
