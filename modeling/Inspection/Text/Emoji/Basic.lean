import Inspection.Text.Blank
import Inspection.Text.Emoji.Table

/-!
# Emoji

Pictures in place of their names between colons. A name may ask for the picture in colours or as
plain text with `-emoji` or `-text` after it.
-/

namespace Inspection.Text

namespace Emoji

/-- The picture of a name. -/
def named? (name : String) : Option String :=
  if name = "" then none
  else
    ((table.splitOn ";").find? fun entry =>
      (entry.toList.filter (· ≠ '\n')).takeWhile (· ≠ ' ') = name.toList).map fun entry =>
        String.ofList ((entry.toList.dropWhile (· ≠ ' ')).drop 1)

/-- How a picture is to be shown, by the ending of a name, and the character that asks for it. -/
def variants : List (String × Char) := [("-emoji", '\ufe0f'), ("-text", '\ufe0e')]

/-- The picture that a name between colons stands for. -/
def picture? (name : List Char) : Option (List Char) :=
  let small (cs : List Char) : String := String.ofList (cs.map Char.toLower)
  match variants.find? fun (ending, _) => ending.toList.isSuffixOf name with
  | some (ending, mark) =>
    (named? (small (name.take (name.length - ending.length)))).map fun s => s.toList ++ [mark]
  | none => (named? (small name)).map String.toList

end Emoji

/-- The text with pictures in place of their names. -/
def withEmoji (cs : List Char) : List Char :=
  match cs with
  | [] => []
  | ':' :: rest =>
    let name := rest.takeWhile fun c => c ≠ ':' && !isBlank c
    match _h : rest.drop name.length with
    | ':' :: after => (Emoji.picture? name).getD (':' :: name ++ [':']) ++ withEmoji after
    | _ => ':' :: withEmoji rest
  | c :: rest => c :: withEmoji rest
termination_by cs.length
decreasing_by
  all_goals simp only [List.length_cons]
  · have := congrArg List.length _h
    simp only [List.length_drop, List.length_cons] at this
    omega
  · omega
  · omega

end Inspection.Text
