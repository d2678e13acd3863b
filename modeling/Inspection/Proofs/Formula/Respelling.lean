import Inspection.Proofs.Formula.Places

/-!
# Respelling written formulas

Cutting the blanks at the ends of a written formula, respelling its operators and respelling its
conditionals leave its pieces as they are and change the spelling they are written in.
-/

namespace Inspection.Formula

variable {ps : List Piece} {p q : Place} {cs t : List Char} {s : Spelling}

/-! ## Blanks at the ends -/

/-- A text of a piece of a formula neither starts nor ends with a blank. -/
lemma Spelling.Spells.ends {x : Piece} (spells : formula.Spells x t) :
    (∃ c more, t = c :: more ∧ Text.isBlank c = false) ∧
      ∃ more c, t = more ++ [c] ∧ Text.isBlank c = false := by
  have solid : ∀ t : List Char, t ≠ [] → (t.all fun c => !Text.isBlank c) →
      (∃ c more, t = c :: more ∧ Text.isBlank c = false) ∧
        ∃ more c, t = more ++ [c] ∧ Text.isBlank c = false := by
    intro t some plain
    simp only [List.all_eq_true, Bool.not_eq_true'] at plain
    obtain ⟨c, more, front⟩ := List.exists_cons_of_ne_nil some
    refine ⟨⟨c, more, front, plain c (by simp [front])⟩, t.dropLast, t.getLast some, ?_, ?_⟩
    · exact (List.dropLast_append_getLast some).symm
    · exact plain _ (List.getLast_mem some)
  cases spells with
  | name plain =>
    obtain ⟨⟨c, more, front, -⟩, chars⟩ := plain.chars
    refine solid _ (by simp [front]) (List.all_eq_true.2 fun d mem => ?_)
    rw [isBlank_of_part (chars d mem)]
    rfl
  | number spelled =>
    obtain ⟨c, more, front, -⟩ := spelled.head
    refine solid _ (by simp [front]) (List.all_eq_true.2 fun d mem => ?_)
    rcases spelled.chars d mem with digit | rfl | rfl | rfl | rfl
    · rw [isBlank_of_part (isAsciiPart_of_digitOf digit)]
      rfl
    all_goals rfl
  | choice => exact ⟨⟨'i', _, rfl, rfl⟩, _, '(', rfl, rfl⟩
  | callee same => cases same
  | mark mark =>
    cases x with
    | name | number | choice => cases mark
    | unary op | arith op | relation op | connective op =>
      cases op <;> cases mark <;> exact solid _ nofun rfl
    | opening | closing | comma => cases mark; exact solid _ nofun rfl

/-- A text without the blanks at its ends does not start with one. -/
lemma head_trim (cs : List Char) : ∀ c ∈ (Text.trim cs).head?, Text.isBlank c = false := by
  have left := List.head?_dropWhile_not Text.isBlank cs
  rw [Text.trim, Text.trimLeft, Text.trimRight]
  cases front : cs.dropWhile Text.isBlank with
  | nil => rintro _ ⟨⟩
  | cons c rest =>
    rw [front, List.head?_cons] at left
    have single : [c].dropWhile Text.isBlank = [c] := by
      rw [List.dropWhile_cons, if_neg (by rw [left]; decide)]
    rw [List.reverse_cons, List.dropWhile_append, single]
    split_ifs
    · rintro _ ⟨⟩
      exact left
    · rw [List.reverse_append]
      rintro _ ⟨⟩
      exact left

namespace Spelling.Writes

lemma trimLeft (writes : formula.Writes ps cs) : formula.Writes ps (Text.trimLeft cs) := by
  induction writes with
  | done => exact .done
  | gap _ ih => exact ih
  | piece spells writes =>
    obtain ⟨⟨c, more, rfl, solid⟩, -⟩ := spells.ends
    rw [List.cons_append, Text.trimLeft_cons_of_not_blank solid, ← List.cons_append]
    exact .piece spells writes

lemma trimRight (writes : formula.Writes ps cs) : formula.Writes ps (Text.trimRight cs) := by
  induction writes with
  | done => exact .done
  | @gap ps cs _ ih =>
    rw [Text.trimRight, List.reverse_cons, List.dropWhile_append]
    rw [Text.trimRight] at ih
    split_ifs with none
    · rw [List.isEmpty_iff.1 none] at ih
      exact ih
    · rw [List.reverse_append]
      exact .gap ih
  | @piece x ps t cs spells writes ih =>
    -- a piece does not end with a blank, so only blanks of the text after it are cut
    obtain ⟨-, more, c, front, solid⟩ := spells.ends
    have whole : t.reverse.dropWhile Text.isBlank = t.reverse := by
      rw [front, List.reverse_append, List.reverse_singleton, List.singleton_append,
        List.dropWhile_cons, if_neg (by rw [solid]; decide)]
    have same : Text.trimRight (t ++ cs) = t ++ Text.trimRight cs := by
      rw [Text.trimRight, Text.trimRight, List.reverse_append, List.dropWhile_append, whole]
      split_ifs with none
      · rw [List.isEmpty_iff.1 none, List.reverse_reverse, List.reverse_nil, List.append_nil]
      · rw [List.reverse_append, List.reverse_reverse]
    rw [same]
    exact .piece spells ih

/-- Cutting the blanks at the ends leaves the pieces. -/
lemma trim (writes : formula.Writes ps cs) : formula.Writes ps (Text.trim cs) :=
  writes.trimLeft.trimRight

end Spelling.Writes

/-! ## Operators -/

/-- Operators of formulas that are respelled start with the character. -/
def StartsRespelled (c : Char) : Prop :=
  c = '^' ∨ c = '&' ∨ c = '|' ∨ c = '!'

/-- A text without operators that are respelled is left as it is. -/
lemma respellOperators_plain (plain : ∀ c ∈ t, ¬ StartsRespelled c) (cs : List Char) :
    respellOperators (t ++ cs) = t ++ respellOperators cs := by
  induction t with
  | nil => rfl
  | cons c t ih =>
    have other := plain c (.head _)
    rw [List.cons_append, respellOperators, ih fun c mem => plain c (.tail _ mem)]
    · rfl
    all_goals
      first
      | rintro rfl
      | rintro _ rfl -
      simp [StartsRespelled] at other

/-- A mark is respelled, a negation if no equals sign follows. -/
lemma respellOperators_mark {x : Piece} (mark : Spelling.formula.mark? x = some t)
    (negation : x = .unary .not → ∀ more, cs ≠ '=' :: more) :
    ∃ t', Spelling.operators.mark? x = some t' ∧
      respellOperators (t ++ cs) = t' ++ respellOperators cs := by
  cases x with
  | name | number | choice => cases mark
  | unary op =>
    cases op with
    | plus | minus => cases mark; exact ⟨_, rfl, rfl⟩
    | not =>
      cases mark
      refine ⟨_, rfl, ?_⟩
      rw [if_pos rfl, List.singleton_append, respellOperators]
      · rfl
      · exact negation rfl
  | arith op | relation op | connective op => cases op <;> cases mark <;> exact ⟨_, rfl, rfl⟩
  | opening | closing | comma => cases mark; exact ⟨_, rfl, rfl⟩

namespace Spelling.Writes

/-- Respelling the operators of a written formula respells them all. -/
lemma respellOperators (writes : formula.Writes ps cs) (leads : Leads ps p q) :
    operators.Writes ps (respellOperators cs) := by
  induction writes generalizing p with
  | done => exact .done
  | gap _ ih => exact .gap (ih leads)
  | @piece x ps t cs spells writes ih =>
    cases leads with | @cons _ _ _ p' _ moves leads =>
    have rest := ih leads
    cases spells with
    | name plain =>
      have none : ∀ d, StartsRespelled d → ¬ Text.isAsciiPart d := by
        rintro d (rfl | rfl | rfl | rfl) <;> decide
      rw [respellOperators_plain fun c mem out => none c out (plain.chars.2 c mem)]
      exact .piece (.name plain) rest
    | number spelled =>
      have none : ∀ d, StartsRespelled d → ¬ InNumber d := by
        rintro d (rfl | rfl | rfl | rfl) <;> (rw [InNumber]; decide)
      rw [respellOperators_plain fun c mem out => none c out (spelled.chars c mem)]
      exact .piece (.number spelled) rest
    | @choice gap =>
      rw [respellOperators_plain]
      · exact .piece (.choice (by decide)) rest
      · intro c mem
        simp only [List.cons_append, List.mem_cons, List.mem_append, List.mem_replicate,
          List.not_mem_nil, or_false] at mem
        rcases mem with rfl | rfl | ⟨-, rfl⟩ | rfl <;> simp [StartsRespelled]
    | callee same => cases same
    | mark mark =>
      have operand : x = .unary .not → ∀ more, cs ≠ '=' :: more := by
        rintro rfl more rfl
        cases moves with
        | sign other => exact other rfl
        | negation => exact absurd (writes.opensOperand leads rfl '=' rfl).1 (by decide)
      obtain ⟨t', mark', same⟩ := respellOperators_mark mark operand
      rw [same]
      exact .piece (.mark mark') rest

end Spelling.Writes

/-! ## Conditionals -/

/-- Whether a word goes on after a text. -/
def inWordAfter (w : Bool) (t : List Char) : Bool :=
  t.foldl (fun _ c => Text.isWordPart c) w

/-- No conditional starts in a text without its letter. -/
lemma respellChoice_plain (fuel : Nat) (w : Bool) (plain : 'i' ∉ t) (cs : List Char) :
    respellChoice (fuel + t.length) w (t ++ cs) =
      t ++ respellChoice fuel (inWordAfter w t) cs := by
  induction t generalizing w with
  | nil => rfl
  | cons c t ih =>
    have other : (if w then none else afterChoice? (c :: (t ++ cs))) = none := by
      split_ifs
      · rfl
      · rw [afterChoice?]
        intro _ same
        exact plain (by rw [(List.cons.inj same).1]; exact .head _)
    rw [List.length_cons, ← Nat.add_assoc, List.cons_append, respellChoice, other]
    dsimp only
    rw [ih _ fun mem => plain (.tail _ mem)]
    rfl

/-- No conditional starts inside a word. -/
lemma respellChoice_word (fuel : Nat) (word : ∀ c ∈ t, Text.isWordPart c) (cs : List Char) :
    respellChoice (fuel + t.length) true (t ++ cs) = t ++ respellChoice fuel true cs := by
  induction t with
  | nil => rfl
  | cons c t ih =>
    rw [List.length_cons, ← Nat.add_assoc, List.cons_append, respellChoice, if_pos rfl]
    dsimp only
    rw [word c (.head _), ih fun d mem => word d (.tail _ mem)]
    rfl

/-- A name other than that of the conditional starts none. -/
lemma afterChoice_name {n : String} (plain : PlainName n) (parted : Parted cs) :
    afterChoice? (n.toList ++ cs) = none := by
  obtain ⟨⟨c, more, front, -⟩, chars⟩ := plain.chars
  rw [afterChoice?.eq_def]
  split
  case h_2 => rfl
  case h_1 rest same =>
    rw [front] at same chars
    obtain ⟨rfl, tail⟩ := List.cons.inj same
    cases more with
    | nil =>
      change cs = 'f' :: rest at tail
      exact absurd (parted 'f' (by rw [tail]; rfl)).1 (by decide)
    | cons d more =>
      obtain ⟨rfl, last⟩ := List.cons.inj tail
      cases more with
      | nil =>
        have same : n = "if" := String.toList_inj.1 front
        exact absurd (by rw [same]; decide) plain.free
      | cons d more =>
        have part := chars d (by simp)
        rw [← show d :: (more ++ cs) = rest from last,
          Text.trimLeft_cons_of_not_blank (isBlank_of_part part)]
        split
        case h_1 found =>
          obtain ⟨rfl, -⟩ := List.cons.inj found
          exact absurd part (by decide)
        case h_2 => rfl

/-- A name is left as it is. -/
lemma respellChoice_name (fuel : Nat) {n : String} (plain : PlainName n) (parted : Parted cs) :
    respellChoice (fuel + n.toList.length) false (n.toList ++ cs) =
      n.toList ++ respellChoice fuel true cs := by
  have none := afterChoice_name plain parted
  obtain ⟨⟨c, more, front, -⟩, chars⟩ := plain.chars
  have words : ∀ d ∈ n.toList, Text.isWordPart d := by
    intro d mem
    rw [Text.isWordPart_of_ascii (plain.ascii d mem)]
    exact chars d mem
  rw [front] at none words ⊢
  rw [List.length_cons, ← Nat.add_assoc, List.cons_append, respellChoice, if_neg (by decide),
    ← List.cons_append, none]
  dsimp only
  rw [words c (.head _), respellChoice_word fuel fun d mem => words d (.tail _ mem)]
  rfl

/-- A conditional is respelled. -/
lemma respellChoice_choice (fuel gap : Nat) (cs : List Char) :
    respellChoice (fuel + 1) false ('i' :: 'f' :: List.replicate gap ' ' ++ ['('] ++ cs) =
      choiceCallee.toList ++ ['('] ++ respellChoice fuel false cs := by
  have found : afterChoice? ('i' :: 'f' :: List.replicate gap ' ' ++ ['('] ++ cs) = some cs := by
    have trimmed : Text.trimLeft (List.replicate gap ' ' ++ '(' :: cs) = '(' :: cs := by
      rw [Text.trimLeft, List.dropWhile_append_of_pos]
      · rfl
      · intro c mem
        rw [List.eq_of_mem_replicate mem]
        rfl
    rw [List.cons_append, List.cons_append, List.cons_append, List.cons_append, List.append_assoc,
      afterChoice?, List.singleton_append, trimmed]
    rfl
  rw [List.cons_append, List.cons_append] at found ⊢
  rw [respellChoice, if_neg (by decide), found, List.append_assoc]
  rfl

/-- A mark is left as it is, and no word goes on after it. -/
lemma respellChoice_mark (fuel : Nat) (w : Bool) {x : Piece}
    (mark : Spelling.operators.mark? x = some t) (cs : List Char) :
    respellChoice (fuel + t.length) w (t ++ cs) = t ++ respellChoice fuel false cs ∧
      Spelling.grammar.mark? x = some t := by
  have plain : 'i' ∉ t ∧ inWordAfter w t = false ∧ Spelling.grammar.mark? x = some t := by
    cases x with
    | name | number | choice => cases mark
    | unary op | arith op | relation op | connective op =>
      cases op <;> cases mark <;> exact ⟨by decide, rfl, rfl⟩
    | opening | closing | comma => cases mark; exact ⟨by decide, rfl, rfl⟩
  rw [respellChoice_plain fuel w plain.1, plain.2.1]
  exact ⟨rfl, plain.2.2⟩

namespace Spelling.Writes

/-- Respelling the conditionals of a written formula respells them all. -/
lemma respellChoice {fuel : Nat} {w : Bool} (writes : operators.Writes ps cs)
    (leads : Leads ps p q) (apart : p.awaits = true → w = false) (enough : cs.length ≤ fuel) :
    grammar.Writes ps (respellChoice fuel w cs) := by
  induction writes generalizing p w fuel with
  | done => cases fuel <;> exact .done
  | @gap ps cs _ ih =>
    rw [List.length_cons] at enough
    obtain ⟨fuel, rfl⟩ : ∃ f, fuel = f + 1 := ⟨fuel - 1, by omega⟩
    have same := respellChoice_plain fuel w (show 'i' ∉ [' '] by decide) cs
    rw [List.singleton_append, List.length_singleton] at same
    rw [same]
    exact .gap (ih leads (fun _ => rfl) (Nat.le_of_succ_le_succ enough))
  | @piece x ps t cs spells writes ih =>
    cases leads with | @cons _ _ _ p' _ moves leads =>
    rw [List.length_append] at enough
    obtain ⟨fuel, rfl⟩ : ∃ f, fuel = f + t.length := ⟨fuel - t.length, by omega⟩
    have left : cs.length ≤ fuel := by omega
    -- names and conditionals stand where an operand is awaited, so no word goes on with them
    cases spells with
    | name plain =>
      cases moves with
      | name =>
        rw [apart rfl, respellChoice_name fuel plain (writes.parted leads rfl)]
        exact .piece (.name plain) (ih leads nofun left)
    | number spelled =>
      have none : ¬ InNumber 'i' := by rw [InNumber]; decide
      rw [respellChoice_plain fuel w fun mem => none (spelled.chars 'i' mem)]
      cases moves with
      | number => exact .piece (.number spelled) (ih leads nofun left)
    | @choice gap =>
      cases moves with
      | choice =>
        rw [apart rfl, List.length_append, List.length_singleton, ← Nat.add_assoc,
          respellChoice_choice]
        exact .piece (.callee rfl) (ih leads (fun _ => rfl) (by omega))
    | callee same => cases same
    | mark mark =>
      obtain ⟨same, mark'⟩ := respellChoice_mark fuel w mark cs
      rw [same]
      exact .piece (.mark mark') (ih leads (fun _ => rfl) left)

/-- The pieces of a written formula stay when it is respelled, and no gap comes first. -/
lemma respelled (writes : formula.Writes ps cs) (leads : Leads ps ⟨0, true⟩ q) :
    grammar.Writes ps (respelled cs) ∧ (Formula.respelled cs).head? ≠ some ' ' := by
  have trimmed := writes.trim
  have operators := trimmed.respellOperators leads
  refine ⟨operators.respellChoice leads (fun _ => rfl) (Nat.le_refl _), ?_⟩
  rw [Formula.respelled]
  cases front : Text.trim cs with
  | nil => exact nofun
  | cons c rest =>
    rw [front] at trimmed
    obtain ⟨opens, positive⟩ := trimmed.opensOperand leads rfl c rfl
    have plain : ¬ StartsRespelled c := by
      rintro (rfl | rfl | rfl | rfl)
      iterate 3 exact absurd opens (by decide)
      exact positive rfl rfl
    have same : Formula.respellOperators (c :: rest) = c :: Formula.respellOperators rest :=
      respellOperators_plain (t := [c]) (fun d mem => by rwa [List.mem_singleton.1 mem]) rest
    rw [same, List.length_cons, Formula.respellChoice]
    split
    · exact nofun
    · intro blank
      have solid := head_trim cs c (by rw [front]; rfl)
      rw [Option.some.inj blank] at solid
      cases solid

end Spelling.Writes

end Inspection.Formula
