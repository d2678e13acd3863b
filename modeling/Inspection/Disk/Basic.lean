import Inspection.Disk.Path
import Inspection.Fault
import Inspection.Json.Reader
import Inspection.Json.Writer

/-!
# Disk

The files that the program reads and writes, as a value: what a path leads to, and what is there
after a write.
-/

namespace Inspection

/-- What is at a place. -/
inductive DiskEntry
  | file (text : String)
  | directory
deriving Repr, DecidableEq

/-- Files and directories under their places, and the working directory. A place is an absolute path
as text. -/
structure Disk where
  workingDirectory : Path
  entries : Table DiskEntry

namespace Disk

/-- The place of some names. -/
def placeOf (names : List String) : String :=
  "/" ++ String.intercalate "/" names

/-- What is at the end of some names from the root. -/
def at? (d : Disk) (names : List String) : Option DiskEntry :=
  if names.isEmpty then some .directory else d.entries.find? (placeOf names)

/-- The most bytes that a name has. -/
def maxNameSize : Nat := 255

/-- The most bytes that a path has. -/
def maxPathSize : Nat := 4095

/-- The names of a path from the root, unless it holds a null character or is too long. -/
def names (d : Disk) (p : Path) : Outcome (List String) :=
  if p.text.contains (Char.ofNat 0) then .error (.value .nullInPath)
  else if maxPathSize < p.text.utf8ByteSize then .error .unusablePath
  else .ok (d.workingDirectory.join p).names

/-- The names from the root that further names lead to from a directory. All but the last of these
have to lead to directories; two points lead back. -/
def follow (d : Disk) : (here : List String) → List String → Outcome (List String)
  | here, [] => .ok here
  | here, ".." :: rest => follow d here.dropLast rest
  | here, n :: rest =>
    if maxNameSize < n.utf8ByteSize then .error .unusablePath
    else if rest.isEmpty then .ok (here ++ [n])
    else
      match d.at? (here ++ [n]) with
      | some .directory => follow d (here ++ [n]) rest
      | some (.file _) => .error .notDirectory
      | none => .error .fileNotFound

/-- The names from the root to what a path leads to. -/
def locate (d : Disk) (p : Path) : Outcome (List String) := do
  d.follow [] (← d.names p)

/-- What a path leads to. -/
def entry? (d : Disk) (p : Path) : Option DiskEntry :=
  match d.locate p with
  | .ok names => d.at? names
  | .error _ => none

/-- Whether a path leads to something. -/
def pathExists (d : Disk) (p : Path) : Outcome Bool :=
  match d.locate p with
  | .error .unusablePath => .error .unusablePath
  | _ => .ok (d.entry? p).isSome

/-- The text with a single line feed for each line break. -/
def unifyBreaks : List Char → List Char
  | [] => []
  | '\r' :: '\n' :: cs => '\n' :: unifyBreaks cs
  | '\r' :: cs => '\n' :: unifyBreaks cs
  | c :: cs => c :: unifyBreaks cs

/-- The text of a file. -/
def read (d : Disk) (p : Path) : Outcome String := do
  match d.at? (← d.locate p) with
  | some (.file text) => return String.ofList (unifyBreaks text.toList)
  | some .directory => .error .isDirectory
  | none => .error .fileNotFound

/-- Makes the directories that further names lead to from a directory, unless a file is in the
way. -/
def makeDirectories (d : Disk) : (here : List String) → List String → Outcome Disk
  | _, [] => .ok d
  | here, ".." :: rest => makeDirectories d here.dropLast rest
  | here, n :: rest =>
    let names := here ++ [n]
    if maxNameSize < n.utf8ByteSize then .error .unusablePath
    else
      match d.at? names with
      | some .directory => makeDirectories d names rest
      | some (.file _) => .error (if rest.isEmpty then .fileExists else .notDirectory)
      | none =>
        makeDirectories { d with entries := d.entries.insert (placeOf names) .directory } names rest

/-- Makes a directory and those that lead there, as far as they are not there. -/
def ensureDirectory (d : Disk) (p : Path) : Outcome Disk := do
  d.makeDirectories [] (← d.names p)

/-- Writes a file in a directory that is there. -/
def write (d : Disk) (p : Path) (text : String) : Outcome Disk := do
  let names ← d.locate p
  match d.at? names with
  | some .directory => .error .isDirectory
  | _ => return { d with entries := d.entries.insert (placeOf names) (.file text) }

/-- Writes a file, and makes the directories that lead there. -/
def put (d : Disk) (p : Path) (text : String) : Outcome Disk := do
  (← d.ensureDirectory p.parent).write p text

/-- How many bytes the name of a file that is about to take another one's place is longer. -/
def draftMark : Nat := 10

/-- Writes a file in one step: it is drafted beside its place and then takes it. -/
def replace (d : Disk) (p : Path) (text : String) : Outcome Disk := do
  let d ← d.ensureDirectory p.parent
  let _ ← d.locate p
  if maxNameSize < p.name.utf8ByteSize + draftMark || p.name = "" || p.name = ".." then
    .error .unusablePath
  else d.write p text

/-- The names of an entry below some names, if it is there. -/
def below? (names : List String) (place : String) : Option (List String) :=
  let all := (Path.ofText place).names
  if names.isPrefixOf all && names.length < all.length then some (all.drop names.length) else none

/-- The names of what is in a directory, sorted. -/
def list (d : Disk) (p : Path) : List String :=
  match d.locate p with
  | .error _ => []
  | .ok here =>
    let names := d.entries.keys.filterMap fun place =>
      match below? here place with
      | some [n] => some n
      | _ => none
    names.mergeSort (· ≤ ·)

/-- The names without the suffix of the JSON documents in a directory, sorted. -/
def documents (d : Disk) (p : Path) : List String :=
  let stems := (d.list p).filterMap fun n =>
    if n.endsWith ".json" then some (Path.ofText n).stem else none
  stems.mergeSort (· ≤ ·)

/-- Removes a directory with all that is in it, if it is there. -/
def removeTree (d : Disk) (p : Path) : Outcome Disk :=
  match d.locate p with
  | .error _ => .ok d
  | .ok here =>
    match d.at? here with
    | some (.file _) => .error .notDirectory
    | _ => .ok { d with
      entries := d.entries.keys.foldl
        (fun t place => if (below? here place).isSome then t.erase place else t)
        (d.entries.erase (placeOf here)) }

/-- Copies a directory with all that is in it to a place where nothing is. -/
def copyTree (d : Disk) (source target : Path) : Outcome Disk := do
  let origin ← d.locate source
  match d.at? origin with
  | none => .error .fileNotFound
  | some (.file _) => .error .notDirectory
  | some .directory =>
    let made ← d.ensureDirectory target
    let goal ← made.locate target
    return { d with
      entries := d.entries.entries.foldl
        (fun t (place, e) => match below? origin place with
          | some names => t.insert (placeOf (goal ++ names)) e
          | none => t)
        made.entries }

/-- The disk with a directory, if it can be there. -/
def withDirectory (d : Disk) (p : Path) : Disk :=
  (d.ensureDirectory p).toOption.getD d

/-- The disk with a file, if it can be there. -/
def withFile (d : Disk) (p : Path) (text : String) : Disk :=
  (d.put p text).toOption.getD d

/-- A disk with nothing but a working directory. -/
def bare (workingDirectory : Path) : Disk :=
  (⟨workingDirectory, .empty⟩ : Disk).withDirectory ⟨false, []⟩

/-- A disk with some files. -/
def ofFiles (workingDirectory : Path) (files : List (Path × String)) : Disk :=
  files.foldl (fun d (p, text) => d.withFile p text) (bare workingDirectory)

/-- The value of a JSON file. -/
def readDocument (d : Disk) (p : Path) : Outcome Json := do
  Outcome.of (.ofJsonFlaw (.value (.badJson p.text))) (Json.read (← d.read p))

end Disk

end Inspection
