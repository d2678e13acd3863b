import Inspection.Disk.Basic

/-!
# Record files

Files with a JSON value on each line; empty lines are passed over.
-/

namespace Inspection.Disk

/-- The values of lines from a number on, and the fault that ended the reading early. -/
def parseLines (number : Nat) : List String → List Json × Option Fault
  | [] => ([], none)
  | l :: rest =>
    let l := Text.trimmed l
    if l = "" then parseLines (number + 1) rest
    else
      match Json.read l with
      | .error flaw => ([], some (.ofJsonFlaw (.value (.badJsonLine number)) flaw))
      | .ok j =>
        let (records, fault) := parseLines (number + 1) rest
        (j :: records, fault)

/-- The values of a record file, and the fault that ended the reading early. -/
def readLines (d : Disk) (p : Path) : List Json × Option Fault :=
  match d.read p with
  | .ok text => parseLines 1 (text.splitOn "\n")
  | .error fault => ([], some fault)

/-- The values of a record file, if all can be read. -/
def readRecords (d : Disk) (p : Path) : Outcome (List Json) :=
  match d.readLines p with
  | (records, none) => .ok records
  | (_, some fault) => .error fault

/-- The text of a record file. -/
def recordsText (records : List Json) : String :=
  String.join (records.map fun j => j.line ++ "\n")

/-- Writes a record file. -/
def writeRecords (d : Disk) (p : Path) (records : List Json) : Outcome Disk :=
  d.write p (recordsText records)

end Inspection.Disk
