import Inspection.Disk.Basic
import Inspection.Proofs.Json.Scalars
import Inspection.Proofs.Outcome
import Inspection.Proofs.Table

/-!
# Reading documents back

What is read of a stored document. Texts, truth values and integers come back as they were, and so
does a finite number (`floatBack_of_finite`), while one that is not finite comes back as null
(`floatBack_of_not_finite`); integers of too many digits end the reading (`readBack`). That is all
that can happen to a value whose records have distinct names (`read_document`).
-/

namespace Inspection.Json

open Decimal NumberFormat

/-! ## What comes back -/

/-- What is read of a double: null or a double. -/
def floatBack (x : Float) : Json :=
  match readValue 1 (stored.write x).toList with
  | .ok (j, _) => j
  | .error _ => null

mutual

/-- What is read of a stored value. -/
def readBack : Json → Except JsonFlaw Json
  | int n =>
    if maxIntegerDigits < digitCount n.natAbs then .error (.digits (digitCount n.natAbs))
    else .ok (int n)
  | float x => .ok (floatBack x)
  | list items => do return list (← readBackItems items)
  | record members => do return record (← readBackMembers members)
  | j => .ok j

/-- What is read of the items of a list. -/
def readBackItems : List Json → Except JsonFlaw (List Json)
  | [] => .ok []
  | item :: rest => do return (← readBack item) :: (← readBackItems rest)

/-- What is read of the members of a record. -/
def readBackMembers : List (String × Json) → Except JsonFlaw (List (String × Json))
  | [] => .ok []
  | (k, v) :: rest => do return (k, ← readBack v) :: (← readBackMembers rest)

end

mutual

/-- The members of each record in a value have distinct names. -/
def Distinct : Json → Prop
  | list items => DistinctItems items
  | record members => (members.map Prod.fst).Nodup ∧ DistinctMembers members
  | _ => True

/-- The items of a list have members of distinct names. -/
def DistinctItems : List Json → Prop
  | [] => True
  | item :: rest => item.Distinct ∧ DistinctItems rest

/-- The members of a record have members of distinct names. -/
def DistinctMembers : List (String × Json) → Prop
  | [] => True
  | (_, v) :: rest => v.Distinct ∧ DistinctMembers rest

end

/-! ## Gaps -/

/-- A line break is a gap. -/
lemma skipGaps_lineBreak (depth : Nat) (cs : List Char) :
    skipGaps (lineBreak depth ++ cs) = skipGaps cs := by
  rw [skipGaps, skipGaps, lineBreak, List.cons_append, List.dropWhile_cons_of_pos (by rfl)]
  refine List.dropWhile_append_of_pos fun c mem => ?_
  rw [List.eq_of_mem_replicate mem]
  rfl

/-- What starts with no gap is left as it is. -/
lemma skipGaps_of_head {cs : List Char} (head : ∀ c ∈ cs.head?, isGap c = false) :
    skipGaps cs = cs := by
  cases cs with
  | nil => rfl
  | cons c cs => rw [skipGaps, List.dropWhile_cons_of_neg (by simp [head c rfl])]

/-! ## Scalars -/

section

variable {fuel : Nat} {rest : List Char}

/-- A digit is no other character. -/
lemma ne_of_digit {c d : Char} (digit : d.isDigit) (other : c.isDigit = false) : c ≠ d := by
  rintro rfl
  rw [other] at digit
  cases digit

/-- A number without a sign is read as one. -/
lemma readValue_digit {d : Char} (digit : d.isDigit) :
    readValue (fuel + 1) (d :: rest) = readNumber false (d :: rest) := by
  have other : ∀ {c}, c.isDigit = false → c ≠ d := ne_of_digit digit
  have word : readWord (d :: rest) = none := by
    simp [readWord, words, @other 'n' rfl, @other 't' rfl, @other 'f' rfl, @other 'N' rfl,
      @other 'I' rfl, @other '-' rfl]
  rw [readValue, word]
  all_goals
    rintro _ ⟨⟩
    cases digit

/-- A number with a sign is read as one. -/
lemma readValue_minus {d : Char} (digit : d.isDigit) :
    readValue (fuel + 1) ('-' :: d :: rest) = readNumber true (d :: rest) := by
  have word : readWord ('-' :: d :: rest) = none := by
    simp [readWord, words, ne_of_digit digit (c := 'I') rfl]
  rw [readValue, word]

/-- A number after a sign, if it is negative, is read as one. -/
lemma readValue_number {negative : Bool} {ds tail : List Char} (digits : Digits ds) :
    readValue (fuel + 1) ((if negative then ['-'] else []) ++ ds ++ tail) =
      readNumber negative (ds ++ tail) := by
  cases ds with
  | nil => exact absurd rfl digits.some
  | cons d ds =>
    have digit := digits.all d List.mem_cons_self
    cases negative with
    | true => exact readValue_minus digit
    | false => exact readValue_digit digit

/-- The parts of a double after a sign are read as a double. -/
lemma readValue_parts {negative : Bool} {p : Parts} (proper : p.Proper) (stops : Stops rest) :
    readValue (fuel + 1) ((if negative then ['-'] else []) ++ p.text ++ rest) =
      .ok (float (numberOf negative p), rest) := by
  rw [Parts.text, List.append_assoc, List.append_assoc, List.append_assoc,
    ← List.append_assoc _ p.whole, readValue_number proper.whole.toDigits,
    ← readNumber_parts proper stops, Parts.text, List.append_assoc, List.append_assoc]

/-- What comes back of the parts of a double after a sign. -/
lemma floatBack_of_parts {x : Float} {negative : Bool} {p : Parts} (proper : p.Proper)
    (text : (stored.write x).toList = (if negative then ['-'] else []) ++ p.text) :
    floatBack x = float (numberOf negative p) := by
  have own : readValue 1 ((if negative then ['-'] else []) ++ p.text ++ []) =
      .ok (float (numberOf negative p), []) := readValue_parts proper (by rintro c ⟨⟩)
  rw [List.append_nil] at own
  rw [floatBack, text, own]

/-- A double is read as what comes back of it. -/
lemma readValue_float (x : Float) (stops : Stops rest) :
    readValue (fuel + 1) ((stored.write x).toList ++ rest) = .ok (floatBack x, rest) := by
  rcases stored_write x with none | ⟨negative, p, proper, text⟩
  · rw [floatBack, none]
    rfl
  · rw [floatBack_of_parts proper text, text, readValue_parts proper stops]

/-- A finite double comes back as it was. -/
lemma floatBack_of_finite {x : Float} (finite : x.isFinite) : floatBack x = float x := by
  obtain ⟨p, proper, text, read⟩ := exists_stored_write finite
  rw [floatBack_of_parts proper text, numberOf_eq, read]
  split_ifs with negative
  · rw [Binary.neg_neg_of_finite finite]
  · rfl

/-- A double that is not finite comes back as null. -/
lemma floatBack_of_not_finite {x : Float} (other : x.isFinite = false) : floatBack x = null := by
  rw [floatBack, stored_write_of_not_finite other]
  rfl

/-- The text of an integer: its digits after a sign. -/
lemma toList_toString (n : Int) : (toString n).toList =
    (if decide (n < 0) then ['-'] else []) ++ Nat.toDigits 10 n.natAbs := by
  cases n with
  | ofNat n =>
    rw [show toString (Int.ofNat n) = toString n from rfl, Nat.toString_eq_ofList_toDigits]
    simp
  | negSucc n =>
    rw [show toString (Int.negSucc n) = "-" ++ toString (n + 1) from rfl,
      Nat.toString_eq_ofList_toDigits]
    simp [Int.negSucc_lt_zero]

/-- An integer is read as itself, unless it has more digits than are read. -/
lemma readValue_int (n : Int) (stops : Stops rest) :
    readValue (fuel + 1) ((toString n).toList ++ rest) =
      (do return (← readBack (int n), rest)) := by
  have sign : (if decide (n < 0) then -(n.natAbs : Int) else n.natAbs) = n := by
    split
    case isTrue h =>
      have negative := of_decide_eq_true h
      omega
    case isFalse h =>
      have negative := of_decide_eq_false (Bool.eq_false_iff.2 h)
      omega
  rw [toList_toString, readValue_number (digits_toDigits _), readNumber_int stops, sign, readBack]
  split
  case isTrue => rfl
  case isFalse => rfl

end

/-! ## Values -/

/-- A text that starts with something, which is no gap and closes no list. -/
def Opens (cs : List Char) : Prop :=
  ∃ c rest, cs = c :: rest ∧ isGap c = false ∧ c ≠ ']'

/-- A number is no gap and closes no list. -/
lemma opens_number {negative : Bool} {ds tail : List Char} (digits : Digits ds) :
    Opens ((if negative then ['-'] else []) ++ ds ++ tail) := by
  cases ds with
  | nil => exact absurd rfl digits.some
  | cons d ds =>
    have digit := digits.all d List.mem_cons_self
    cases negative with
    | true => exact ⟨_, _, rfl, rfl, by decide⟩
    | false =>
      refine ⟨_, _, rfl, ?_, (ne_of_digit digit rfl).symm⟩
      have other : ∀ {c}, c.isDigit = false → d ≠ c := fun h => (ne_of_digit digit h).symm
      simp [isGap, @other ' ' rfl, @other '\t' rfl, @other '\n' rfl, @other '\r' rfl]

/-- A value that is written starts with no gap and closes no list. -/
lemma opens_block (depth : Nat) (j : Json) : Opens (blockChars stored depth j) := by
  cases j with
  | null => exact ⟨_, _, rfl, rfl, by decide⟩
  | bool b =>
    cases b with
    | true => exact ⟨_, _, rfl, rfl, by decide⟩
    | false => exact ⟨_, _, rfl, rfl, by decide⟩
  | int n =>
    have own : Opens ((if decide (n < 0) then ['-'] else []) ++ Nat.toDigits 10 n.natAbs ++ []) :=
      opens_number (digits_toDigits n.natAbs)
    rwa [List.append_nil, ← toList_toString] at own
  | float x =>
    rcases stored_write x with none | ⟨negative, p, proper, text⟩
    · rw [blockChars, scalarChars, none]
      · exact ⟨_, _, rfl, rfl, by decide⟩
      all_goals exact nofun
    · rw [blockChars, scalarChars, text, Parts.text, List.append_assoc, ← List.append_assoc]
      · exact opens_number proper.whole.toDigits
      all_goals exact nofun
  | text s => exact ⟨_, _, rfl, rfl, by decide⟩
  | list items =>
    cases items with
    | nil => exact ⟨_, _, rfl, rfl, by decide⟩
    | cons item rest => exact ⟨_, _, rfl, rfl, by decide⟩
  | record members =>
    cases members with
    | nil => exact ⟨_, _, rfl, rfl, by decide⟩
    | cons member rest => exact ⟨_, _, rfl, rfl, by decide⟩

/-- No gap is skipped before a value. -/
lemma skipGaps_block (depth : Nat) (j : Json) (cs : List Char) :
    skipGaps (blockChars stored depth j ++ cs) = blockChars stored depth j ++ cs := by
  obtain ⟨c, rest, e, noGap, -⟩ := opens_block depth j
  rw [e]
  exact skipGaps_of_head fun c' mem => Option.some.inj mem ▸ noGap

/-- The text after an item: the further items, each after a comma. -/
def furtherItems (depth : Nat) : List Json → List Char
  | [] => []
  | items => ',' :: blockItems stored depth items

@[simp] lemma furtherItems_nil (depth : Nat) : furtherItems depth [] = [] := rfl

@[simp] lemma furtherItems_cons (depth : Nat) (item : Json) (rest : List Json) :
    furtherItems depth (item :: rest) = ',' :: blockItems stored depth (item :: rest) := rfl

/-- The text of items, the first one taken apart. -/
lemma blockItems_cons (depth : Nat) (item : Json) (rest : List Json) :
    blockItems stored depth (item :: rest) =
      lineBreak depth ++ (blockChars stored depth item ++ furtherItems depth rest) := by
  cases rest with
  | nil => rw [blockItems, furtherItems, List.append_nil]
  | cons next rest =>
    rw [blockItems, furtherItems, List.append_assoc]
    all_goals exact nofun

/-- The text after a member: the further members, each after a comma. -/
def furtherMembers (depth : Nat) : List (String × Json) → List Char
  | [] => []
  | members => ',' :: blockMembers stored depth members

@[simp] lemma furtherMembers_nil (depth : Nat) : furtherMembers depth [] = [] := rfl

@[simp] lemma furtherMembers_cons (depth : Nat) (member : String × Json)
    (rest : List (String × Json)) : furtherMembers depth (member :: rest) =
      ',' :: blockMembers stored depth (member :: rest) := rfl

/-- The text of members, the first one taken apart. -/
lemma blockMembers_cons (depth : Nat) (k : String) (v : Json) (rest : List (String × Json)) :
    blockMembers stored depth ((k, v) :: rest) = lineBreak depth ++ (stringChars k ++
      ':' :: ' ' :: (blockChars stored depth v ++ furtherMembers depth rest)) := by
  cases rest with
  | nil => simp [blockMembers, furtherMembers]
  | cons next rest => simp [blockMembers, furtherMembers]

/-- What follows an item or a member stops it. -/
lemma stops_lineBreak (depth : Nat) (cs : List Char) : Stops (lineBreak depth ++ cs) := by
  rintro c ⟨⟩
  exact .inr rfl

lemma stops_furtherItems {depth : Nat} {items : List Json} {cs : List Char} (stops : Stops cs) :
    Stops (furtherItems depth items ++ cs) := by
  cases items with
  | nil => exact stops
  | cons item rest =>
    rintro c ⟨⟩
    exact .inl rfl

lemma stops_furtherMembers {depth : Nat} {members : List (String × Json)} {cs : List Char}
    (stops : Stops cs) : Stops (furtherMembers depth members ++ cs) := by
  cases members with
  | nil => exact stops
  | cons member rest =>
    rintro c ⟨⟩
    exact .inl rfl

/-- After the gaps before items a first one starts. -/
lemma skipGaps_blockItems (depth : Nat) (item : Json) (more : List Json) (rest : List Char) :
    ∃ c cs, skipGaps (blockItems stored depth (item :: more) ++ rest) = c :: cs ∧ c ≠ ']' := by
  obtain ⟨c, cs, e, -, other⟩ := opens_block depth item
  rw [blockItems_cons, List.append_assoc, skipGaps_lineBreak, List.append_assoc, skipGaps_block, e]
  exact ⟨c, _, rfl, other⟩

/-- After the gaps before members a first name starts. -/
lemma skipGaps_blockMembers (depth : Nat) (member : String × Json) (more : List (String × Json))
    (rest : List Char) :
    ∃ cs, skipGaps (blockMembers stored depth (member :: more) ++ rest) = '"' :: cs := by
  obtain ⟨k, v⟩ := member
  rw [blockMembers_cons, List.append_assoc, skipGaps_lineBreak]
  exact ⟨_, rfl⟩

mutual

/-- A value that was written is read as what comes back of it. -/
theorem readValue_block {j : Json} (distinct : j.Distinct) {depth fuel : Nat} {rest : List Char}
    (stops : Stops rest) (enough : (blockChars stored depth j).length ≤ fuel) :
    readValue fuel (blockChars stored depth j ++ rest) = (do return (← readBack j, rest)) := by
  -- a value has at least one character, and each level of the reading takes one step of the fuel
  obtain ⟨fuel, rfl⟩ : ∃ n, fuel = n + 1 := by
    obtain ⟨c, cs, e, -⟩ := opens_block depth j
    rw [e, List.length_cons] at enough
    exact ⟨fuel - 1, by omega⟩
  match j with
  | null => rfl
  | bool true => rfl
  | bool false => rfl
  | int n =>
    rw [blockChars, scalarChars, readValue_int n stops]
    all_goals exact nofun
  | float x =>
    rw [blockChars, scalarChars, readValue_float x stops]
    · rfl
    all_goals exact nofun
  | text s =>
    obtain ⟨cs, e, read⟩ := readString_stringChars s rest
    rw [blockChars, scalarChars, e, readValue, read]
    · simp [orMalformed, readBack]
    all_goals exact nofun
  | list [] => rfl
  | list (item :: more) =>
    have inner : (blockItems stored (depth + 1) (item :: more)).length ≤ fuel := by
      simp only [blockChars, List.length_cons, List.length_append] at enough
      omega
    have read := readItems_block distinct depth rest nofun inner
    have split : blockChars stored depth (list (item :: more)) ++ rest = '[' ::
        (blockItems stored (depth + 1) (item :: more) ++ (lineBreak depth ++ ']' :: rest)) := by
      simp [blockChars]
    obtain ⟨c, cs, e, other⟩ :=
      skipGaps_blockItems (depth + 1) item more (lineBreak depth ++ ']' :: rest)
    rw [e] at read
    rw [split, readValue, e, readBack]
    split
    case h_1 same => exact absurd (List.cons.inj same).1 other
    case h_2 =>
      rw [read]
      cases readBackItems (item :: more) with
      | error e => rfl
      | ok items => rfl
  | record [] => rfl
  | record (member :: more) =>
    have inner : (blockMembers stored (depth + 1) (member :: more)).length ≤ fuel := by
      simp only [blockChars, List.length_cons, List.length_append] at enough
      omega
    have read := readMembers_block distinct.2 depth rest [] (by simpa using distinct.1) nofun inner
    have split : blockChars stored depth (record (member :: more)) ++ rest = '\x7b' ::
        (blockMembers stored (depth + 1) (member :: more) ++
          (lineBreak depth ++ '\x7d' :: rest)) := by
      simp [blockChars]
    obtain ⟨cs, e⟩ :=
      skipGaps_blockMembers (depth + 1) member more (lineBreak depth ++ '\x7d' :: rest)
    rw [e] at read
    rw [split, readValue, e, readBack]
    split
    case h_1 same => cases (List.cons.inj same).1
    case h_2 =>
      rw [read]
      cases readBackMembers (member :: more) with
      | error e => rfl
      | ok members => rfl

/-- Items that were written are read as what comes back of them. -/
theorem readItems_block {items : List Json} (distinct : DistinctItems items) {depth fuel : Nat}
    (outer : Nat) (rest : List Char) (some : items ≠ [])
    (enough : (blockItems stored depth items).length ≤ fuel) :
    readItems fuel (skipGaps (blockItems stored depth items ++ (lineBreak outer ++ ']' :: rest))) =
      (do return (← readBackItems items, rest)) := by
  match items with
  | [] => exact absurd rfl some
  | item :: more =>
    obtain ⟨own, others⟩ := distinct
    rw [blockItems_cons, lineBreak, List.length_append, List.length_append,
      List.length_cons] at enough
    obtain ⟨fuel, rfl⟩ : ∃ n, fuel = n + 1 := ⟨fuel - 1, by omega⟩
    rw [blockItems_cons, List.append_assoc, skipGaps_lineBreak, List.append_assoc, skipGaps_block,
      readItems]
    have stops : Stops (furtherItems depth more ++ (lineBreak outer ++ ']' :: rest)) :=
      stops_furtherItems (stops_lineBreak outer _)
    rw [readValue_block own stops (by omega), readBackItems]
    cases readBack item with
    | error e => rfl
    | ok item' =>
      simp only [ok_bind, pure, Except.pure]
      match more with
      | [] =>
        rw [furtherItems_nil, List.nil_append, skipGaps_lineBreak,
          skipGaps_of_head (by rintro c ⟨⟩; rfl)]
        rfl
      | next :: more =>
        rw [furtherItems_cons, List.length_cons] at enough
        rw [furtherItems_cons, List.cons_append, skipGaps_of_head (by rintro c ⟨⟩; rfl)]
        simp only
        rw [readItems_block others outer rest nofun (by omega)]
        cases readBackItems (next :: more) with
        | error e => rfl
        | ok items => rfl

/-- Members that were written under new names are read as what comes back of them, after those that
were read before. -/
theorem readMembers_block {members : List (String × Json)} (distinct : DistinctMembers members)
    {depth fuel : Nat} (outer : Nat) (rest : List Char) (before : List (String × Json))
    (names : ((before ++ members).map Prod.fst).Nodup) (some : members ≠ [])
    (enough : (blockMembers stored depth members).length ≤ fuel) :
    readMembers fuel (skipGaps (blockMembers stored depth members ++
      (lineBreak outer ++ '\x7d' :: rest))) before =
      (do return (before ++ (← readBackMembers members), rest)) := by
  match members with
  | [] => exact absurd rfl some
  | (k, v) :: more =>
    obtain ⟨own, others⟩ := distinct
    rw [blockMembers_cons, lineBreak, List.length_append, List.length_append, List.length_cons,
      List.length_cons, List.length_cons, List.length_append] at enough
    obtain ⟨fuel, rfl⟩ : ∃ n, fuel = n + 1 := ⟨fuel - 1, by omega⟩
    have new : k ∉ before.map Prod.fst := by
      intro mem
      rw [List.map_append] at names
      exact List.disjoint_of_nodup_append names mem (by simp)
    have stops : Stops (furtherMembers depth more ++ (lineBreak outer ++ '\x7d' :: rest)) :=
      stops_furtherMembers (stops_lineBreak outer _)
    obtain ⟨cs, e, read⟩ := readString_stringChars k (':' :: ' ' :: (blockChars stored depth v ++
      (furtherMembers depth more ++ (lineBreak outer ++ '\x7d' :: rest))))
    have split : blockMembers stored depth ((k, v) :: more) ++ (lineBreak outer ++ '\x7d' :: rest) =
        lineBreak depth ++ '"' :: cs := by
      rw [← e, blockMembers_cons]
      simp
    have colon : ∀ cs, skipGaps (':' :: cs) = ':' :: cs := fun cs => rfl
    have blank : ∀ cs, skipGaps (' ' :: cs) = skipGaps cs := fun cs => rfl
    rw [split, skipGaps_lineBreak, skipGaps_of_head (by rintro c ⟨⟩; rfl), readMembers, read]
    simp only [orMalformed, ok_bind, colon, blank, skipGaps_block]
    rw [readValue_block own stops (by omega), readBackMembers]
    cases readBack v with
    | error e => rfl
    | ok v' =>
      simp only [ok_bind, pure, Except.pure, String.ofList_toList, putEntry_of_new new]
      match more with
      | [] =>
        rw [furtherMembers_nil, List.nil_append, skipGaps_lineBreak,
          skipGaps_of_head (by rintro c ⟨⟩; rfl)]
        rfl
      | next :: more =>
        rw [furtherMembers_cons, List.length_cons] at enough
        rw [furtherMembers_cons, List.cons_append, skipGaps_of_head (by rintro c ⟨⟩; rfl)]
        simp only
        have further : ((before ++ [(k, v')] ++ next :: more).map Prod.fst).Nodup := by
          simpa using names
        rw [readMembers_block others outer rest _ further nofun (by omega)]
        cases readBackMembers (next :: more) with
        | error e => rfl
        | ok members => simp

end

/-! ## Whole documents -/

/-- A written number holds digits, signs, a point and a mark of its exponent. -/
lemma return_notMem_parts {p : Parts} (proper : p.Proper) : '\r' ∉ p.text := by
  have digits : ∀ {cs : List Char}, (∀ c ∈ cs, c.isDigit) → '\r' ∉ cs := by
    intro cs all mem
    cases all _ mem
  have exponent : '\r' ∉ exponentText p.exponent := by
    cases e : p.exponent with
    | none => exact nofun
    | some x =>
      obtain ⟨negative, ds⟩ := x
      have own := digits (proper.exponent _ e).all
      cases negative with
      | true => simpa [exponentText] using own
      | false => simpa [exponentText] using own
  simp [Parts.text, digits proper.whole.all, digits proper.fraction, exponent]

/-- A written text holds no carriage return. -/
lemma return_notMem_stringChars (s : String) : '\r' ∉ stringChars s := by
  have code : ∀ n < 32, '\r' ∉ Text.hexDigits 4 n := by decide
  have char : ∀ c, '\r' ∉ escapedChar c := by
    intro c mem
    rw [escapedChar] at mem
    split_ifs at mem with quote backslash feed back tab erase page control
    all_goals try exact absurd mem (by decide)
    · exact code _ control (by simpa using mem)
    · exact back (List.mem_singleton.1 mem).symm
  simp [stringChars, char]

/-- A line break in a document is none of the kinds that are unified. -/
lemma return_notMem_lineBreak (depth : Nat) : '\r' ∉ lineBreak depth := by
  simp [lineBreak, List.mem_replicate]

mutual

/-- A written value holds no carriage return. -/
theorem return_notMem_block (depth : Nat) (j : Json) : '\r' ∉ blockChars stored depth j := by
  match j with
  | null => simp [blockChars, scalarChars]
  | bool true => simp [blockChars, scalarChars]
  | bool false => simp [blockChars, scalarChars]
  | int n =>
    have digits : '\r' ∉ Nat.toDigits 10 n.natAbs := fun mem => by
      cases (digits_toDigits n.natAbs).all _ mem
    rw [blockChars, scalarChars, toList_toString]
    · cases decide (n < 0) with
      | true => simpa using digits
      | false => simpa using digits
    all_goals exact nofun
  | float x =>
    rw [blockChars, scalarChars]
    · rcases stored_write x with none | ⟨negative, p, proper, text⟩
      · rw [none]
        decide
      · rw [text]
        cases negative with
        | true => simpa using return_notMem_parts proper
        | false => simpa using return_notMem_parts proper
    all_goals exact nofun
  | text s => exact return_notMem_stringChars s
  | list [] => simp [blockChars]
  | list (item :: rest) =>
    simp [blockChars, return_notMem_items (depth + 1) (item :: rest), return_notMem_lineBreak]
  | record [] => simp [blockChars]
  | record (member :: rest) =>
    simp [blockChars, return_notMem_members (depth + 1) (member :: rest), return_notMem_lineBreak]

theorem return_notMem_items (depth : Nat) (items : List Json) :
    '\r' ∉ blockItems stored depth items := by
  match items with
  | [] => exact nofun
  | [item] =>
    simp [blockItems, return_notMem_block depth item, return_notMem_lineBreak]
  | item :: next :: rest =>
    simp [blockItems, return_notMem_block depth item, return_notMem_lineBreak,
      return_notMem_items depth (next :: rest)]

theorem return_notMem_members (depth : Nat) (members : List (String × Json)) :
    '\r' ∉ blockMembers stored depth members := by
  match members with
  | [] => exact nofun
  | [(k, v)] =>
    simp [blockMembers, return_notMem_block depth v, return_notMem_lineBreak,
      return_notMem_stringChars]
  | (k, v) :: next :: rest =>
    simp [blockMembers, return_notMem_block depth v, return_notMem_lineBreak,
      return_notMem_stringChars, return_notMem_members depth (next :: rest)]

end

/-- Where no carriage return is, all line breaks are line feeds already. -/
lemma unifyBreaks_of_notMem {cs : List Char} (none : '\r' ∉ cs) : Disk.unifyBreaks cs = cs := by
  induction cs with
  | nil => rfl
  | cons c cs ih =>
    rw [List.mem_cons, not_or] at none
    rw [Disk.unifyBreaks, ih none.2]
    · rintro _ rfl
      exact absurd rfl none.1
    · rintro rfl
      exact absurd rfl none.1

/-- What is read of the file of a document is what comes back of its value. -/
theorem read_document {j : Json} (distinct : j.Distinct) :
    Json.read (String.ofList (Disk.unifyBreaks j.document.toList)) = j.readBack := by
  have text : Disk.unifyBreaks j.document.toList = blockChars stored 0 j ++ [] := by
    rw [document, String.toList_ofList, unifyBreaks_of_notMem (return_notMem_block 0 j),
      List.append_nil]
  have stops : Stops [] := by
    rintro c ⟨⟩
  have value := readValue_block distinct stops
    (by simp : (blockChars stored 0 j).length ≤ (blockChars stored 0 j ++ []).length + 1)
  rw [Json.read, text, String.toList_ofList, skipGaps_block, value]
  cases j.readBack with
  | error e => rfl
  | ok j' => rfl

end Inspection.Json
