import Inspection.Formula.Field

/-!
# Written texts

Texts and bytes between quotes in an expression: the marks before them, their extent, and what they
stand for.
-/

namespace Inspection.Formula

/-- The marks before a quoted text. -/
structure Marks where
  bytes : Bool
  raw : Bool
  formatted : Bool

/-- The marks that the letters directly before a quote set, in any case. -/
def marks? (letters : List Char) : Option Marks :=
  match letters.map Char.toLower with
  | [] => some ⟨false, false, false⟩
  | ['u'] => some ⟨false, false, false⟩
  | ['b'] => some ⟨true, false, false⟩
  | ['r'] => some ⟨false, true, false⟩
  | ['f'] => some ⟨false, false, true⟩
  | ['b', 'r'] => some ⟨true, true, false⟩
  | ['r', 'b'] => some ⟨true, true, false⟩
  | ['f', 'r'] => some ⟨false, true, true⟩
  | ['r', 'f'] => some ⟨false, true, true⟩
  | _ => none

/-- The characters up to the closing quote, and the text after it; a backslash keeps the character
after it from closing. -/
def upToQuote (quote : Char) : List Char → Option (List Char × List Char)
  | [] => none
  | '\\' :: c :: cs => (upToQuote quote cs).map fun (s, rest) => ('\\' :: c :: s, rest)
  | c :: cs =>
    if c = quote then some ([], cs)
    else if c = '\n' then none
    else (upToQuote quote cs).map fun (s, rest) => (c :: s, rest)

/-- The characters up to three closing quotes, and the text after them. -/
def upToQuotes (quote : Char) : List Char → Option (List Char × List Char)
  | [] => none
  | '\\' :: c :: cs => (upToQuotes quote cs).map fun (s, rest) => ('\\' :: c :: s, rest)
  | a :: cs =>
    if a = quote ∧ cs.take 2 = [quote, quote] then some ([], cs.drop 2)
    else (upToQuotes quote cs).map fun (s, rest) => (a :: s, rest)

/-- The body of a text whose opening quote starts the text, and the text after it. -/
def quotation? : List Char → Option (List Char × List Char)
  | quote :: cs =>
    if cs.take 2 = [quote, quote] then upToQuotes quote (cs.drop 2) else upToQuote quote cs
  | [] => none

/-- The literal that marks and a body write. -/
def textLiteral? (m : Marks) (body : List Char) : Option TextLiteral :=
  if m.formatted then (fieldTexts? m.raw body).map .formatted
  else if m.bytes then
    if body.any fun c => 128 ≤ c.toNat then none
    else if m.raw then some (.bytes (body.map Char.toNat))
    else (unescape false body.length body).map .bytes
  else if m.raw then some (.characters (body.map Char.toNat))
  else (unescape true body.length body).map .characters

end Inspection.Formula
