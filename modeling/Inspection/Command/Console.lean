import Inspection.Site
import Inspection.Text.Markup

/-!
# Console

What a command prints and how it ends. A command runs at a site step by step; what it printed and
changed before it failed stays.
-/

namespace Inspection

/-- Something that is printed. -/
inductive Printed
  | line (text : String)
  /-- Rows of cells, the first of which are the headings. -/
  | table (title : String) (rows : List (List String))
  | document (j : Json)

/-- How a command ends early. -/
inductive Ending
  | exit (code : Nat)
  | fault (f : Fault)
  /-- A text that is to be printed closes a style that is not open. -/
  | unopenedStyle

/-- The site of a running command, and what it printed so far. -/
structure Console where
  site : Site
  printed : List Printed

namespace Console

/-- Whether a character moves the cursor or rings and is not printed. -/
def isControl (c : Char) : Bool :=
  c.toNat = 7 || c.toNat = 8 || (11 ≤ c.toNat && c.toNat ≤ 13)

/-- Blanks in place of tabs, each up to the next multiple of eight columns, from a column on. -/
def expandTabs (column : Nat) : List Char → List Char
  | [] => []
  | '\t' :: cs =>
    let width := 8 - column % 8
    List.replicate width ' ' ++ expandTabs (column + width) cs
  | c :: cs => c :: expandTabs (column + 1) cs

/-- The lines that a text is printed as. -/
def lines (text : String) : List String :=
  (String.ofList (text.toList.filter fun c => !isControl c)).splitOn "\n" |>.map fun l =>
    String.ofList (expandTabs 0 l.toList)

end Console

/-- A step of a command. -/
abbrev Run (α : Type) := ExceptT Ending (StateM Console) α

namespace Run

/-- The site at this point. -/
def site : Run Site := do
  return (← get).site

/-- Goes on at a changed site. -/
def setSite (s : Site) : Run Unit :=
  modify fun c => { c with site := s }

/-- The answer of an operation; a fault ends the command. -/
def ofOutcome {α : Type} (o : Outcome α) : Run α :=
  match o with
  | .ok a => return a
  | .error fault => throw (.fault fault)

/-- Changes the files. -/
def changeDisk (o : Outcome Disk) : Run Unit := do
  let disk ← ofOutcome o
  setSite { (← site) with disk := disk }

/-- The text of a marked-up text. -/
def plain (marked : String) : Run String :=
  match Markup.plain? marked with
  | some text => return text
  | none => throw .unopenedStyle

/-- Prints something. -/
def emit (p : List Printed) : Run Unit :=
  modify fun c => { c with printed := c.printed ++ p }

/-- Prints the lines of a marked-up text. -/
def print (marked : String) : Run Unit := do
  emit ((Console.lines (← plain marked)).map .line)

/-- Prints a table of marked-up texts. -/
def printTable (title : String) (rows : List (List String)) : Run Unit := do
  let title ← plain title
  let rows ← rows.mapM fun cells => cells.mapM plain
  emit [.table title rows]

/-- Ends the command with an error in marked-up words. -/
def stop {α : Type} (marked : String) : Run α := do
  print ("[red]Error:[/red] " ++ marked)
  throw (.exit 1)

/-- Ends the command with a fault that is printed. -/
def fail {α : Type} (fault : Fault) : Run α :=
  stop (Markup.escape fault.message)

/-- The answer of an operation; a fault is printed if it is one to report, and ends the command
anyway. -/
def reporting {α : Type} (reported : Fault → Bool) (o : Outcome α) : Run α :=
  match o with
  | .ok a => return a
  | .error fault => if reported fault then fail fault else throw (.fault fault)

end Run

/-- Whether the fault is an error of the program's own, or about a product or batch that is not
there. -/
def Fault.isReported : Fault → Bool
  | error _ | productNotFound .. | batchNotFound .. => true
  | _ => false

/-- Whether the fault is about a value. -/
def Fault.isValue : Fault → Bool
  | value _ => true
  | _ => false

end Inspection
