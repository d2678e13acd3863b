import Inspection.Json.Basic

/-!
# Writing JSON

A value as text, on one line or with one member a line. Characters outside ASCII stand for
themselves.
-/

namespace Inspection.Json

/-- A character inside a JSON string. -/
def escapedChar (c : Char) : List Char :=
  if c = '"' then ['\\', '"']
  else if c = '\\' then ['\\', '\\']
  else if c = '\n' then ['\\', 'n']
  else if c = '\r' then ['\\', 'r']
  else if c = '\t' then ['\\', 't']
  else if c = '\x08' then ['\\', 'b']
  else if c = '\x0c' then ['\\', 'f']
  else if c.toNat < 32 then '\\' :: 'u' :: Text.hexDigits 4 c.toNat
  else [c]

/-- A text as a JSON string. -/
def stringChars (s : String) : List Char :=
  '"' :: s.toList.flatMap escapedChar ++ ['"']

/-- A value that is neither a list nor a record. -/
def scalarChars (f : NumberFormat) : Json → List Char
  | null => "null".toList
  | bool true => "true".toList
  | bool false => "false".toList
  | int n => (toString n).toList
  | float x => (f.write x).toList
  | text s => stringChars s
  | _ => []

mutual

/-- The value on one line, with a blank after each comma and colon. -/
def lineChars (f : NumberFormat) : Json → List Char
  | list items => '[' :: lineItems f items ++ [']']
  | record members => '\x7b' :: lineMembers f members ++ ['\x7d']
  | j => scalarChars f j

def lineItems (f : NumberFormat) : List Json → List Char
  | [] => []
  | [item] => lineChars f item
  | item :: rest => lineChars f item ++ ',' :: ' ' :: lineItems f rest

def lineMembers (f : NumberFormat) : List (String × Json) → List Char
  | [] => []
  | [(k, v)] => stringChars k ++ ':' :: ' ' :: lineChars f v
  | (k, v) :: rest =>
    stringChars k ++ ':' :: ' ' :: lineChars f v ++ ',' :: ' ' :: lineMembers f rest

end

/-- A new line with the indentation of a depth. -/
def lineBreak (depth : Nat) : List Char :=
  '\n' :: List.replicate (2 * depth) ' '

mutual

/-- The value with one item or member a line, at a depth. -/
def blockChars (f : NumberFormat) (depth : Nat) : Json → List Char
  | list [] => ['[', ']']
  | list items => '[' :: blockItems f (depth + 1) items ++ lineBreak depth ++ [']']
  | record [] => ['\x7b', '\x7d']
  | record members => '\x7b' :: blockMembers f (depth + 1) members ++ lineBreak depth ++ ['\x7d']
  | j => scalarChars f j

def blockItems (f : NumberFormat) (depth : Nat) : List Json → List Char
  | [] => []
  | [item] => lineBreak depth ++ blockChars f depth item
  | item :: rest => lineBreak depth ++ blockChars f depth item ++ ',' :: blockItems f depth rest

def blockMembers (f : NumberFormat) (depth : Nat) : List (String × Json) → List Char
  | [] => []
  | [(k, v)] => lineBreak depth ++ stringChars k ++ ':' :: ' ' :: blockChars f depth v
  | (k, v) :: rest =>
    lineBreak depth ++ stringChars k ++ ':' :: ' ' :: blockChars f depth v ++
      ',' :: blockMembers f depth rest

end

/-- The text of a record of a log or list file: one line. -/
def line (j : Json) : String :=
  String.ofList (lineChars NumberFormat.jsonText j)

/-- The text of a stored document: indented, and null for what is not finite. -/
def document (j : Json) : String :=
  String.ofList (blockChars NumberFormat.stored 0 j)

end Inspection.Json
