import Inspection.Text.Emoji.Basic
import Inspection.Text.Style

/-!
# Marked-up text

Text with style tags in square brackets: `[bold]` opens a style, `[/bold]` closes it, and `[/]`
closes the style that was opened last. A backslash before a tag takes the tag as text. Names of
pictures between colons stand for the pictures. Here only the text matters, not its style.

`Markup.escape` makes any text safe to stand among tags.
-/

namespace Inspection.Markup

/-- Whether a bracket before the character opens a tag. -/
def startsTag (c : Char) : Bool :=
  c.isLower || c = '#' || c = '/' || c = '@'

/-- The inside of the tag whose opening bracket stands before a text, and what follows the tag. -/
def tag? (cs : List Char) : Option (List Char × List Char) :=
  let inside := cs.takeWhile fun c => c ≠ '[' && c ≠ ']'
  match inside, cs.drop inside.length with
  | c :: _, ']' :: rest => if startsTag c then some (inside, rest) else none
  | _, _ => none

theorem tag?_length {cs inside rest : List Char} (h : tag? cs = some (inside, rest)) :
    rest.length < cs.length := by
  unfold tag? at h
  dsimp only at h
  split at h
  · rename_i heq
    split at h
    · cases h
      have := congrArg List.length heq
      simp only [List.length_drop, List.length_cons] at this
      omega
    · cases h
  · cases h

/-- A part of marked-up text, with the backslashes before it. -/
inductive Part
  | character (backslashes : Nat) (c : Char)
  | tag (backslashes : Nat) (inside : List Char)
  | backslashes (n : Nat)
deriving Repr, DecidableEq

/-- The number of leading backslashes. -/
def leadingBackslashes (cs : List Char) : Nat :=
  (cs.takeWhile (· = '\\')).length

/-- The parts of marked-up text. -/
def parts (cs : List Char) : List Part :=
  let n := leadingBackslashes cs
  match _h : cs.drop n with
  | [] => [.backslashes n]
  | c :: rest =>
    match _t : if c = '[' then tag? rest else none with
    | some (inside, after) => .tag n inside :: parts after
    | none => .character n c :: parts rest
termination_by cs.length
decreasing_by
  all_goals
    have := congrArg List.length _h
    simp only [List.length_drop, List.length_cons] at this
  · split at _t
    · have := tag?_length _t
      omega
    · cases _t
  · omega

/-- The styles that are open after a tag; the one opened last comes first. There is no answer if the
tag closes a style that is not open. -/
def afterTag (opened : List String) (inside : List Char) : Option (List String) :=
  match inside.takeWhile (· ≠ '=') with
  | '/' :: name =>
    if (Text.trim name).isEmpty then opened.tail?
    else
      let name := Text.Style.canonical (Text.trim name)
      if name ∈ opened then some (opened.erase name) else none
  | name => some (Text.Style.canonical name :: opened)

/-- The text of parts, with some styles open and after some characters since the last tag. Two
backslashes before a tag stand for one, and one that is left takes the tag as text. A backslash
before a bracket that opens no tag is dropped. -/
def plainOf (opened : List String) (before : List Char) : List Part → Option (List Char)
  | [] => some (Text.withEmoji before)
  | .backslashes n :: rest => plainOf opened (before ++ List.replicate n '\\') rest
  | .character n c :: rest =>
    let n := if c = '[' then n - 1 else n
    plainOf opened (before ++ List.replicate n '\\' ++ [c]) rest
  | .tag n inside :: rest =>
    let before := Text.withEmoji before ++ List.replicate (n / 2) '\\'
    if n % 2 = 0 then
      (afterTag opened inside).bind fun opened => (plainOf opened [] rest).map (before ++ ·)
    else
      (plainOf opened [] rest).map (before ++ Text.withEmoji ('[' :: inside ++ [']']) ++ ·)

/-- The text without its tags, unless a tag closes a style that is not open. -/
def plain? (s : String) : Option String :=
  if s.contains '[' then (plainOf [] [] (parts s.toList)).map String.ofList
  else some (String.ofList (Text.withEmoji s.toList))

/-- A part with backslashes before what reads as a tag. -/
def Part.escaped : Part → List Char
  | backslashes n => List.replicate n '\\'
  | character n c => List.replicate n '\\' ++ [c]
  | tag n inside => List.replicate (2 * n + 1) '\\' ++ '[' :: inside ++ [']']

/-- The text that shows as another one among tags. A single backslash at its end is doubled, so that
it does not reach for a tag after it. -/
def escape (s : String) : String :=
  let cs := (parts s.toList).flatMap Part.escaped
  match cs.reverse with
  | '\\' :: '\\' :: _ => String.ofList cs
  | '\\' :: _ => String.ofList (cs ++ ['\\'])
  | _ => String.ofList cs

end Inspection.Markup
