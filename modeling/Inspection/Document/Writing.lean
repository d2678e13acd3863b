import Inspection.Document.Reading

/-!
# Writing documents

The values that closed choices, counts, lists and missing parts are written as.
-/

namespace Inspection

/-- A closed choice as a value. -/
def Keyword.json {α : Type} [Keyword α] (a : α) : Json :=
  .text (Keyword.label a)

/-- What may be missing as a value. -/
def Json.ofOption {α : Type} (f : α → Json) : Option α → Json
  | some a => f a
  | none => .null

/-- A list as a value. -/
def Json.ofList {α : Type} (f : α → Json) (as : List α) : Json :=
  .list (as.map f)

/-- A count as a value. -/
def Json.ofCount (c : Count) : Json :=
  .int c.val

end Inspection
