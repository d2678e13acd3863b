import Inspection.Formula.Numeral
import Inspection.Text.CharacterName.Basic

/-!
# Escapes

What a backslash and the characters after it stand for inside quotes.
-/

namespace Inspection.Formula

/-- The number of so many hexadecimal digits, and the text after them. -/
def hexEscape : (count : Nat) → (value : Nat) → List Char → Option (Nat × List Char)
  | 0, value, cs => some (value, cs)
  | count + 1, value, c :: cs =>
    if digitOf c < 16 then hexEscape count (value * 16 + digitOf c) cs else none
  | _, _, [] => none

/-- The number of up to three octal digits, and the text after them. -/
def octalEscape : (count : Nat) → (value : Nat) → List Char → Nat × List Char
  | 0, value, cs => (value, cs)
  | count + 1, value, c :: cs =>
    if digitOf c < 8 then octalEscape count (value * 8 + digitOf c) cs else (value, c :: cs)
  | _, value, [] => (value, [])

/-- The code point of the character whose name stands between braces, and the text after them. -/
def nameEscape? : List Char → Option (Nat × List Char)
  | '\x7b' :: cs => do
    let n ← Text.characterNamed? (cs.takeWhile (· ≠ '\x7d'))
    match cs.dropWhile (· ≠ '\x7d') with
    | [] => none
    | _ :: rest => some (n, rest)
  | _ => none

/-- The code point of a letter after a backslash. -/
def simpleEscape? (c : Char) : Option Nat :=
  [('\\', 92), ('\'', 39), ('"', 34), ('a', 7), ('b', 8), ('f', 12), ('n', 10), ('r', 13), ('t', 9),
    ('v', 11)].lookup c

/-- The numbers of a body's characters with escapes resolved; `wide` escapes name code points. An
escape that means nothing stands for itself. -/
def unescape (wide : Bool) : (fuel : Nat) → List Char → Option (List Nat)
  | 0, _ => some []
  | _, [] => some []
  | fuel + 1, '\\' :: c :: cs =>
    if c = '\n' then unescape wide fuel cs
    else match simpleEscape? c with
      | some n => (unescape wide fuel cs).map (n :: ·)
      | none =>
        if digitOf c < 8 then
          let (n, rest) := octalEscape 3 0 (c :: cs)
          (unescape wide fuel rest).map ((if wide then n else n % 256) :: ·)
        else if c = 'x' then do
          let (n, rest) ← hexEscape 2 0 cs
          (unescape wide fuel rest).map (n :: ·)
        else if wide && c = 'u' then do
          let (n, rest) ← hexEscape 4 0 cs
          (unescape wide fuel rest).map (n :: ·)
        else if wide && c = 'U' then do
          let (n, rest) ← hexEscape 8 0 cs
          if n < 0x110000 then (unescape wide fuel rest).map (n :: ·) else none
        else if wide && c = 'N' then do
          let (n, rest) ← nameEscape? cs
          (unescape wide fuel rest).map (n :: ·)
        else (unescape wide fuel cs).map fun ns => 92 :: c.toNat :: ns
  | fuel + 1, c :: cs => (unescape wide fuel cs).map (c.toNat :: ·)

end Inspection.Formula
