import Inspection.Command.Run
import Std.Time

/-!
# Command line

The outer layer of the program: it takes the words of the command line, the environment, the time
and the files that a command looks at, runs the command on them as values, writes the changed files
and prints.
-/

namespace Inspection.Command

/-- The paths that a command looks at by itself. -/
def paths : Command → List Path
  | init source _ => [(source.getD ⟨false, []⟩).child "product-registry"]
  | createBatch .. | checkDependencies .. | display .. => []
  | evaluate _ input output _ => input :: output.toList
  | save _ input diagnostics _ => input :: diagnostics.toList
  | submit _ input _ output _ => input.toList ++ output.toList
  | validate product schema => product :: schema.toList

/-- The places that a command is told. -/
def places : Command → Places
  | createBatch _ _ p | checkDependencies _ _ _ p | evaluate _ _ _ p | save _ _ _ p
  | submit _ _ _ _ p | display _ _ p => p
  | init .. | validate .. => ⟨none, none⟩

/-- The paths that a command looks at, where the settings can be read. -/
def allPaths (c : Command) (d : Disk) (v : Variables) : List Path :=
  let found := [Settings.findRegistry d v c.places.registry, Settings.findStore d v c.places.store]
  Run.schemaPath :: v.ownRegistry :: c.paths ++ found.filterMap Except.toOption

/-- A cell with blanks up to a width. -/
def padded (width : Nat) (cell : String) : String :=
  cell ++ String.ofList (List.replicate (width - cell.length) ' ')

/-- The lines of a table whose columns stand below each other. -/
def tableLines (rows : List (List String)) : List String :=
  let columns := (rows.map List.length).foldl max 0
  let widths := (List.range columns).map fun i =>
    (rows.map fun cells => (cells.getD i "").length).foldl max 0
  rows.map fun cells =>
    String.intercalate "  " ((cells.zip widths).map fun (cell, width) => padded width cell)

/-- What is printed, as lines. -/
def printedLines : Printed → List String
  | .line text => [text]
  | .table title rows => title :: tableLines rows
  | .document j => [j.document]

/-- What is wrong when a command ends with a fault, as lines. -/
def endingLines : Ending → List String
  | .exit _ => []
  | .fault f => [f.message]
  | .unopenedStyle => ["A style is closed that is not open"]

/-- The variables of the environment that count. -/
def variableNames : List String :=
  ["HOME", "QCGATE_HOME", "QCGATE_PRODUCT_REGISTRY", "QCGATE_BATCH_STORE"]

/-- Reads the environment. -/
def readVariables : IO Variables :=
  variableNames.foldlM (fun v name => do
    match ← IO.getEnv name with
    | some value => return v.insert name value
    | none => return v) .empty

/-- Reads what is at a path, with all that is in it. Files that are no text are left out. -/
partial def readTree (d : Disk) (p : Path) : IO Disk := do
  let file := (← IO.currentDir) / p.text
  if ← file.isDir then
    (← file.readDir).foldlM (fun d e => readTree d (p.child e.fileName)) (d.withDirectory p)
  else if ← file.pathExists then
    try
      let text ← IO.FS.readFile file
      return d.withFile p text
    catch _ => return d
  else return d

/-- Reads what is at a path, and whether its directory is there. -/
def readPath (d : Disk) (p : Path) : IO Disk := do
  let directory := (← IO.currentDir) / p.parent.text
  readTree (if ← directory.isDir then d.withDirectory p.parent else d) p

/-- The time in seconds. -/
def readTime : IO Timestamp := do
  let now ← Std.Time.Timestamp.now
  let t := (Std.Time.DateTime.ofTimestamp now Std.Time.TimeZone.ZoneRules.UTC).toPlainDateTime
  match Timestamp.ofParts? t.year.toInt.toNat t.month.val.toNat t.day.val.toNat t.hour.val.toNat
      t.minute.val.toNat t.second.val.toNat with
  | some t => return t
  | none => throw (IO.userError "The clock is beyond the calendar")

/-- A random code in hexadecimal digits. -/
def readCode : IO String := do
  return String.ofList ((← IO.getRandomBytes 16).toList.flatMap fun b => Text.hexDigits 2 b.toNat)

/-- The site that a command line runs at. -/
def readSite (words : List String) : IO Site := do
  let v ← readVariables
  let here := Path.ofText (← IO.currentDir).toString
  let d ← readPath (Disk.bare here) v.settingsPath
  let needed := match call words with
    | .command name rest => match wish name rest with
      | .command c => c.allPaths d v
      | _ => []
    | _ => []
  let codes ← (List.range 2).mapM fun _ => readCode
  return ⟨← needed.foldlM readPath d, v, ← readTime, fun n => codes.getD (n - 1) "", 0⟩

/-- Writes a file in one step. -/
def writeWhole (place text : String) : IO Unit := do
  IO.FS.writeFile (place ++ ".part") text
  IO.FS.rename (place ++ ".part") place

/-- Brings the files from one state to another. -/
def writeChanges (before after : Disk) : IO Unit := do
  for place in before.entries.keys do
    if !after.entries.contains place then
      let file := (← IO.currentDir) / place
      if ← file.isDir then IO.FS.removeDirAll file
      else if ← file.pathExists then IO.FS.removeFile file
  for (place, entry) in after.entries.entries do
    if before.entries.find? place ≠ some entry then
      match entry with
      | .directory => IO.FS.createDirAll place
      | .file text => writeWhole place text

end Inspection.Command

open Inspection Command in
/-- Runs a command line. -/
def main (words : List String) : IO UInt32 := do
  let site ← readSite words
  let finished := runAt words site
  writeChanges site.disk finished.site.disk
  for line in finished.printed.flatMap printedLines do IO.println line
  for line in endingLines finished.ending do IO.eprintln line
  return finished.exitCode.toUInt32
