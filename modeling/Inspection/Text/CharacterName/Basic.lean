import Inspection.Text.CharacterName.Table

/-!
# Names of characters

The character that a name of Unicode version 14 names. The letters of a name may be in any case, but
for names that a rule makes: those of Hangul syllables, spelled by their letters, and those of
unified ideographs, which end in the code point.
-/

namespace Inspection.Text

namespace CharacterName

/-- The words of a name, each with the space or hyphen after it. -/
def words : List Char → List (List Char)
  | [] => []
  | c :: cs =>
    match words cs with
    | [] => [[c]]
    | w :: ws => if c = ' ' ∨ c = '-' then [c] :: w :: ws else (c :: w) :: ws

/-- The value of a hexadecimal digit. -/
def hexValue? (c : Char) : Option Nat :=
  if c.isDigit then some (c.toNat - '0'.toNat)
  else if 'A' ≤ c ∧ c ≤ 'F' then some (c.toNat - 'A'.toNat + 10)
  else none

/-- The number that hexadecimal digits write. -/
def ofHex? (cs : List Char) : Option Nat :=
  cs.foldlM (fun n c => (hexValue? c).map (n * 16 + ·)) 0

/-- A name of the table: its code point and its words. -/
structure Entry where
  point : Nat
  words : List (List Char)

/-- The entry that a text of the table writes after another one. -/
def Entry.next (before : Entry) (text : List Char) : Entry :=
  let (point, text) := match text with
    | '=' :: cs =>
      ((ofHex? ((cs.takeWhile (· ≠ ' ')).map Char.toUpper)).getD 0,
        (cs.dropWhile (· ≠ ' ')).drop 1)
    | text => (before.point + 1, text)
  match text with
  | c :: cs =>
    if c.isLower then ⟨point, before.words.take (c.toNat - 'a'.toNat + 1) ++ CharacterName.words cs⟩
    else ⟨point, CharacterName.words text⟩
  | [] => ⟨point, []⟩

/-- The code point of a name among entries that are written after another one. -/
def pointOf? (name : List (List Char)) : Entry → List String → Option Nat
  | _, [] => none
  | before, text :: rest =>
    let entry := before.next (text.toList.filter (· ≠ '\n'))
    if entry.words = name then some entry.point else pointOf? name entry rest

/-- The leading consonants of Hangul syllables. -/
def leadingConsonants : List String :=
  ["G", "GG", "N", "D", "DD", "R", "M", "B", "BB", "S", "SS", "", "J", "JJ", "C", "K", "T", "P", "H"]

/-- The vowels of Hangul syllables. -/
def vowels : List String :=
  ["A", "AE", "YA", "YAE", "EO", "E", "YEO", "YE", "O", "WA", "WAE", "OE", "YO", "U", "WEO", "WE",
    "WI", "YU", "EU", "YI", "I"]

/-- The trailing consonants of Hangul syllables, the first for none. -/
def trailingConsonants : List String :=
  ["", "G", "GG", "GS", "N", "NJ", "NH", "D", "L", "LG", "LM", "LB", "LS", "LT", "LP", "LH", "M", "B",
    "BS", "S", "SS", "NG", "J", "C", "K", "T", "P", "H"]

/-- The longest of some spellings that starts a text: its position, and the text after it. -/
def longestPrefix? (spellings : List String) (cs : List Char) : Option (Nat × List Char) :=
  (spellings.zipIdx.filter fun (s, _) => s.toList.isPrefixOf cs).foldl
    (fun best (s, i) =>
      match best with
      | some (_, rest) =>
        if rest.length ≤ (cs.drop s.length).length then best else some (i, cs.drop s.length)
      | none => some (i, cs.drop s.length))
    none

/-- The code point of a Hangul syllable by its spelling. -/
def syllable? (spelling : List Char) : Option Nat := do
  let (l, rest) ← longestPrefix? leadingConsonants spelling
  let (v, rest) ← longestPrefix? vowels rest
  let (t, rest) ← longestPrefix? trailingConsonants rest
  if rest.isEmpty then
    return 0xac00 + (l * vowels.length + v) * trailingConsonants.length + t
  else none

/-- The first and last code points of the blocks of unified ideographs. -/
def ideographs : List (Nat × Nat) :=
  [(0x3400, 0x4dbf), (0x4e00, 0x9fff), (0x20000, 0x2a6df), (0x2a700, 0x2b738), (0x2b740, 0x2b81d),
    (0x2b820, 0x2cea1), (0x2ceb0, 0x2ebe0), (0x30000, 0x3134a)]

/-- The code point of a unified ideograph by its four or five digits. -/
def ideograph? (digits : List Char) : Option Nat := do
  let n ← ofHex? digits
  if (digits.length = 4 ∨ digits.length = 5) ∧ ideographs.any fun (a, b) => a ≤ n && n ≤ b then
    return n
  else none

/-- The text after another one that it starts with. -/
def after? (start cs : List Char) : Option (List Char) :=
  if start.isPrefixOf cs then some (cs.drop start.length) else none

end CharacterName

open CharacterName in
/-- The code point of the character that a name names. -/
def characterNamed? (name : List Char) : Option Nat :=
  match after? "HANGUL SYLLABLE ".toList name, after? "CJK UNIFIED IDEOGRAPH-".toList name with
  | some spelling, _ => syllable? spelling
  | none, some digits => ideograph? digits
  | none, none =>
    let ws := words (name.map Char.toUpper)
    tables.findSome? fun table => pointOf? ws ⟨0, []⟩ (table.splitOn ";")

end Inspection.Text
