import Inspection.Proofs.Formula.Sound

/-!
# Formulas before a closing parenthesis

Inside of parentheses lines do not end, and what comes after a formula is the parenthesis that
closes it. Each reader of the grammar reads a formula alike there (`context`), by one step for each
of them from the readers that it calls. So a whole formula is read as an operand in parentheses
(`named_closed`).
-/

namespace Inspection.Formula

variable {tail ts rest us : List Token} {t : Token} {fuel : Nat}

/-- The tokens up to the end of the line, before a parenthesis that closes them. -/
def closed (tail ts : List Token) : List Token :=
  ts.takeWhile (· ≠ .line) ++ .symbol .closeParen :: tail

/-- No line ends with the token, and it gives no name to what follows. -/
def Token.plain : Token → Bool
  | .line | .symbol .assign | .symbol .walrus => false
  | _ => true

/-- The tokens that are left over come after plain ones. -/
def Consumes (ts rest : List Token) : Prop :=
  ∃ own, ts = own ++ rest ∧ ∀ t ∈ own, t.plain

/-- What is read from the tokens is read from them where a parenthesis closes them, too, and with
more fuel. -/
structure Carries {α : Type} (tail : List Token) (fuel : Nat)
    (read : Nat → List Token → Option (α × List Token)) (ts rest : List Token) (a : α) : Prop where
  consumes : Consumes ts rest
  reads : ∀ more, fuel ≤ more → read more (closed tail ts) = some (a, closed tail rest)

/-- All results of the reader that are good carry over. -/
def Keeps {α : Type} (tail : List Token) (fuel : Nat) (good : α → List Token → Prop)
    (read : Nat → List Token → Option (α × List Token)) : Prop :=
  ∀ ⦃ts a rest⦄, read fuel ts = some (a, rest) → good a rest → Carries tail fuel read ts rest a

/-! ## Tokens that a parenthesis closes -/

@[simp] lemma closed_line : closed tail (.line :: ts) = .symbol .closeParen :: tail := by
  simp [closed]

lemma closed_cons (plain : t ≠ .line) : closed tail (t :: ts) = t :: closed tail ts := by
  simp [closed, plain]

@[simp] lemma closed_symbol {s : Symbol} :
    closed tail (.symbol s :: ts) = .symbol s :: closed tail ts :=
  closed_cons nofun

@[simp] lemma closed_word {w : String} : closed tail (.word w :: ts) = .word w :: closed tail ts :=
  closed_cons nofun

@[simp] lemma closed_name {n : String} : closed tail (.name n :: ts) = .name n :: closed tail ts :=
  closed_cons nofun

@[simp] lemma closed_number {n : Numeral} :
    closed tail (.number n :: ts) = .number n :: closed tail ts :=
  closed_cons nofun

/-- Before the parenthesis that closes them, tokens start as they do by themselves. -/
lemma head_of_closed (other : t ≠ .symbol .closeParen) (same : closed tail ts = t :: us) :
    ∃ ts', ts = t :: ts' ∧ us = closed tail ts' := by
  cases ts with
  | nil =>
    cases same
    exact absurd rfl other
  | cons t' ts =>
    by_cases line : t' = .line
    · rw [line, closed_line] at same
      cases same
      exact absurd rfl other
    · rw [closed_cons line] at same
      cases same
      exact ⟨ts, rfl, rfl⟩

lemma closed_ne (other : t ≠ .symbol .closeParen) (none : ∀ ts', ts ≠ t :: ts') (us : List Token) :
    closed tail ts ≠ t :: us := by
  intro same
  obtain ⟨ts', front, -⟩ := head_of_closed other same
  exact none ts' front

lemma closed_ne_pair {t' : Token} (other : t ≠ .symbol .closeParen)
    (other' : t' ≠ .symbol .closeParen) (none : ∀ ts', ts ≠ t :: t' :: ts') (us : List Token) :
    closed tail ts ≠ t :: t' :: us := by
  intro same
  obtain ⟨ts', rfl, same'⟩ := head_of_closed other same
  obtain ⟨ts'', rfl, -⟩ := head_of_closed other' same'.symm
  exact none ts'' rfl

namespace Consumes

lemma refl (ts : List Token) : Consumes ts ts :=
  ⟨[], rfl, nofun⟩

lemma cons (plain : t.plain) (h : Consumes ts rest) : Consumes (t :: ts) rest := by
  obtain ⟨own, rfl, inside⟩ := h
  exact ⟨t :: own, rfl, List.forall_mem_cons.2 ⟨plain, inside⟩⟩

lemma trans (h : Consumes ts rest) (h' : Consumes rest us) : Consumes ts us := by
  obtain ⟨own, rfl, inside⟩ := h
  obtain ⟨own', rfl, inside'⟩ := h'
  exact ⟨own ++ own', (List.append_assoc ..).symm, List.forall_mem_append.2 ⟨inside, inside'⟩⟩

end Consumes

/-- It is enough to look at the readers that the fuel is left for. -/
lemma Carries.of_step {α : Type} {read : Nat → List Token → Option (α × List Token)} {a : α}
    (consumes : Consumes ts rest)
    (reads : ∀ more, fuel ≤ more → read (more + 1) (closed tail ts) = some (a, closed tail rest)) :
    Carries tail (fuel + 1) read ts rest a where
  consumes := consumes
  reads more le := by
    obtain ⟨more, rfl⟩ : ∃ k, more = k + 1 := ⟨more - 1, by omega⟩
    exact reads more (by omega)

/-- A comparison of formulas is read alike before all tokens. -/
lemma relation_eq_right {r : Relation} (found : relation? ts = some (.inr r, rest)) :
    ∃ s, ts = .symbol s :: rest ∧ (Token.symbol s).plain ∧
      ∀ us, relation? (.symbol s :: us) = some (.inr r, us) := by
  unfold relation? at found
  split at found <;> cases found <;> exact ⟨_, rfl, rfl, fun _ => rfl⟩

/-- No name is given between operands of a binary operator. -/
lemma plain_of_binaryOperator {k : Nat} {s : Symbol} {op : ForeignOperator ⊕ Arith}
    (found : binaryOperator? k s = some op) : (Token.symbol s).plain := by
  unfold binaryOperator? at found
  split at found <;> first | rfl | cases found

lemma relation_closed (ends : relation? ts = none) : relation? (closed tail ts) = none := by
  have identity (ts : List Token) : relation? (.word "is" :: ts) ≠ none := by
    unfold relation?
    split <;> simp_all
  rw [relation?.eq_def]
  split
  case h_11 => rfl
  case h_8 same =>
    obtain ⟨ts', rfl, same'⟩ := head_of_closed (by simp) same
    obtain ⟨ts', rfl, -⟩ := head_of_closed (by simp) same'.symm
    cases ends
  case h_9 same | h_10 same =>
    obtain ⟨ts', rfl, -⟩ := head_of_closed (by simp) same
    exact absurd ends (identity ts')
  all_goals
    rename_i same
    obtain ⟨ts', rfl, -⟩ := head_of_closed (by simp) same
    cases ends

/-- Where nothing is awaited, a power is a base that may have an exponent. -/
lemma power_unawaited (unawaited : ∀ us, ts ≠ .word "await" :: us) :
    power (fuel + 1) ts = (primary fuel ts).bind fun (base, ts) =>
      match ts with
      | .symbol .power :: ts => (factor fuel ts).bind fun (exponent, ts) =>
        some (.binary (.inr .pow) base exponent, ts)
      | _ => some (base, ts) := by
  rw [power]
  · rfl
  · exact unawaited

/-- No word follows where further arguments do. -/
lemma afterWord_of_furtherArguments {phase : Nat} {args : (List Checked × Bool) × List Token}
    (read : furtherArguments fuel phase ts = some args) (w : String) : afterWord? w ts = none := by
  cases fuel with
  | zero =>
    rw [furtherArguments] at read
    cases read
  | succ fuel =>
    rw [furtherArguments.eq_def] at read
    dsimp only at read
    split at read
    case h_3 => cases read
    all_goals rfl

/-- What is read as an operand does not start with a parenthesis that closes it. -/
lemma closed_ne_closing {c : Checked × List Token} (found : named fuel ts = some c)
    (us : List Token) : closed tail ts ≠ .symbol .closeParen :: us := by
  intro same
  have bare : Bare ts := by
    cases ts with
    | nil => exact nofun
    | cons t ts =>
      rintro _ ⟨⟩
      by_cases line : t = .line
      · rw [line]
        rfl
      · rw [closed_cons line] at same
        rw [(List.cons.inj same).1]
        rfl
  rw [bare.named] at found
  cases found

lemma startsClause_closed (tail ts : List Token) :
    startsClause (closed tail ts) = startsClause ts := by
  cases ts with
  | nil => rfl
  | cons t ts =>
    cases t with
    | line => simp [startsClause]
    | word w =>
      simp only [closed_word]
      unfold startsClause
      split <;> simp_all
    | _ => rfl

lemma afterWord_closed {w : String} (ends : afterWord? w ts = none) :
    afterWord? w (closed tail ts) = none := by
  cases ts with
  | nil => rfl
  | cons t ts =>
    cases t with
    | line => rw [closed_line]; rfl
    | word v =>
      rw [afterWord?] at ends
      rw [closed_word, afterWord?]
      split_ifs at ends ⊢
      rfl
    | _ => rfl

/-! ## Readers -/

/-- What the readers of formulas read carries over. -/
structure Context (tail : List Token) (fuel : Nat) : Prop where
  expression : Keeps tail fuel (fun c rest => c.Sound ∧ afterWord? "if" rest = none) expression
  row : ∀ op : Connective, Keeps tail fuel (fun c _ => c.Sound) (parser op.level)
  more : ∀ op : Connective, Keeps tail fuel (fun cs _ => ∀ c ∈ cs, c.Sound) op.more
  inversion : Keeps tail fuel (fun c _ => c.Sound) inversion
  comparison : Keeps tail fuel (fun c _ => c.Sound) comparison
  comparisons : Keeps tail fuel (fun rs _ => ∀ r ∈ rs, r.1.isRight ∧ r.2.Sound) comparisons
  binary : ∀ k, Keeps tail fuel (fun c _ => c.Sound) fun fuel => binary fuel k
  binaryRest : ∀ k left, Keeps tail fuel (fun c _ => c.Sound) fun fuel => binaryRest fuel k left
  factor : Keeps tail fuel (fun c _ => c.Sound) factor
  power : Keeps tail fuel (fun c _ => c.Sound) power
  primary : Keeps tail fuel (fun c _ => c.Sound) primary
  trailers : ∀ value, Keeps tail fuel (fun c _ => c.Sound) fun fuel => trailers fuel value
  arguments : ∀ sole phase, Keeps tail fuel (fun args _ => (∀ c ∈ args.1, c.Sound) ∧ args.2 = false)
    fun fuel => arguments fuel sole phase
  furtherArguments : ∀ phase, Keeps tail fuel
    (fun args _ => (∀ c ∈ args.1, c.Sound) ∧ args.2 = false) fun fuel => furtherArguments fuel phase
  atom : Keeps tail fuel (fun c _ => c.Sound) atom
  inParens : Keeps tail fuel (fun c _ => c.Sound) inParens
  named : Keeps tail fuel (fun c rest => c.Sound ∧ afterWord? "if" rest = none) named

namespace Context

variable (context : Context tail fuel)

include context

lemma inversion_step : Keeps tail (fuel + 1) (fun c _ => c.Sound) Formula.inversion := by
  intro ts c rest read sound
  rw [Formula.inversion.eq_def] at read
  dsimp only at read
  split at read
  case h_1 ts =>
    obtain ⟨⟨c, rest⟩, found, same⟩ := Option.map_eq_some_iff.1 read
    cases same
    have inner := context.inversion found (Checked.sound_unary sound)
    refine .of_step (inner.consumes.cons rfl) fun more le => ?_
    rw [closed_word, Formula.inversion, inner.reads more le]
    rfl
  case h_2 other =>
    have inner := context.comparison read sound
    refine .of_step inner.consumes fun more le => ?_
    rw [Formula.inversion]
    · exact inner.reads more le
    · exact closed_ne (by simp) other

/-- The parser of the operands of a connective. -/
lemma operand (op : Connective) : Keeps tail fuel (fun c _ => c.Sound) (parser (op.level + 1)) := by
  cases op with
  | and => exact context.inversion
  | or => exact context.row .and

lemma more_step (op : Connective) :
    Keeps tail (fuel + 1) (fun cs _ => ∀ c ∈ cs, c.Sound) op.more := by
  intro ts cs rest read sound
  by_cases word : ∃ ts', ts = .word op.word :: ts'
  · obtain ⟨ts, rfl⟩ := word
    rw [op.more_word] at read
    obtain ⟨⟨c, ts'⟩, first, read⟩ := Option.bind_eq_some_iff.1 read
    obtain ⟨⟨cs, rest'⟩, further, same⟩ := Option.bind_eq_some_iff.1 read
    cases same
    have inner := context.operand op first (sound c (.head _))
    have later := context.more op further fun c mem => sound c (.tail _ mem)
    refine .of_step ((inner.consumes.trans later.consumes).cons rfl) fun more le => ?_
    rw [closed_word, op.more_word, inner.reads more le]
    simp only [Option.bind_eq_bind, Option.bind_some, later.reads more le]
    rfl
  · have other {fuel : Nat} {ts : List Token} (none : ∀ ts', ts ≠ .word op.word :: ts') :
        op.more (fuel + 1) ts = some ([], ts) := by
      cases op with
      | and =>
        rw [Connective.more, conjuncts]
        exact none
      | or =>
        rw [Connective.more, disjuncts]
        exact none
    rw [other (not_exists.1 word)] at read
    cases read
    refine .of_step (.refl _) fun more le => ?_
    exact other (closed_ne (by simp) (not_exists.1 word))

lemma row_step (op : Connective) :
    Keeps tail (fuel + 1) (fun c _ => c.Sound) (parser op.level) := by
  intro ts c rest read sound
  rw [op.parser_level] at read
  obtain ⟨⟨first, ts'⟩, own, read⟩ := Option.bind_eq_some_iff.1 read
  obtain ⟨⟨cs, rest'⟩, further, same⟩ := Option.bind_eq_some_iff.1 read
  cases same
  have sound := Checked.sound_connected sound
  have inner := context.operand op own sound.1
  have later := context.more op further sound.2
  refine .of_step (inner.consumes.trans later.consumes) fun more le => ?_
  rw [op.parser_level, inner.reads more le]
  simp only [Option.bind_eq_bind, Option.bind_some, later.reads more le]
  rfl

lemma comparisons_step : Keeps tail (fuel + 1)
    (fun rs _ => ∀ r ∈ rs, r.1.isRight ∧ r.2.Sound) Formula.comparisons := by
  intro ts rs rest read sound
  rw [Formula.comparisons] at read
  split at read
  case h_1 r ts' found =>
    obtain ⟨⟨c, ts''⟩, first, read⟩ := Option.bind_eq_some_iff.1 read
    obtain ⟨⟨rs, rest'⟩, further, same⟩ := Option.bind_eq_some_iff.1 read
    cases same
    obtain ⟨right, own⟩ := sound _ (.head _)
    obtain ⟨r, rfl⟩ := Sum.isRight_iff.1 right
    obtain ⟨s, rfl, plain, always⟩ := relation_eq_right found
    have inner := context.binary 0 first own
    have later := context.comparisons further fun r mem => sound r (.tail _ mem)
    refine .of_step ((inner.consumes.trans later.consumes).cons plain) fun more le => ?_
    rw [closed_symbol, Formula.comparisons, always]
    simp only [Option.bind_eq_bind, inner.reads more le, Option.bind_some, later.reads more le]
    rfl
  case h_2 ends =>
    cases read
    refine .of_step (.refl _) fun more le => ?_
    rw [Formula.comparisons, relation_closed ends]

lemma comparison_step : Keeps tail (fuel + 1) (fun c _ => c.Sound) Formula.comparison := by
  intro ts c rest read sound
  rw [Formula.comparison] at read
  obtain ⟨⟨first, ts'⟩, own, read⟩ := Option.bind_eq_some_iff.1 read
  obtain ⟨⟨rs, rest'⟩, further, same⟩ := Option.bind_eq_some_iff.1 read
  cases same
  have sound := Checked.sound_compared sound
  have inner := context.binary 0 own sound.1
  have later := context.comparisons further sound.2
  refine .of_step (inner.consumes.trans later.consumes) fun more le => ?_
  rw [Formula.comparison]
  simp only [Option.bind_eq_bind, inner.reads more le, Option.bind_some, later.reads more le]
  rfl

lemma binary_step (k : Nat) :
    Keeps tail (fuel + 1) (fun c _ => c.Sound) fun fuel => Formula.binary fuel k := by
  intro ts c rest read sound
  dsimp only at read
  rw [Formula.binary] at read
  split at read
  case isTrue deep =>
    have inner := context.factor read sound
    refine .of_step inner.consumes fun more le => ?_
    rw [Formula.binary, if_pos deep]
    exact inner.reads more le
  case isFalse shallow =>
    obtain ⟨⟨first, ts'⟩, own, read⟩ := Option.bind_eq_some_iff.1 read
    have inner := context.binary (k + 1) own (sound_of_binaryRest read sound)
    have later := context.binaryRest k first read sound
    refine .of_step (inner.consumes.trans later.consumes) fun more le => ?_
    rw [Formula.binary, if_neg shallow]
    simp only [Option.bind_eq_bind, inner.reads more le, Option.bind_some]
    exact later.reads more le

lemma binaryRest_step (k : Nat) (left : Checked) :
    Keeps tail (fuel + 1) (fun c _ => c.Sound) fun fuel => Formula.binaryRest fuel k left := by
  intro ts c rest read sound
  dsimp only at read
  rw [Formula.binaryRest.eq_def] at read
  dsimp only at read
  split at read
  case h_1 s ts =>
    split at read
    case h_1 op found =>
      obtain ⟨⟨right, ts'⟩, own, read⟩ := Option.bind_eq_some_iff.1 read
      have inner := context.binary (k + 1) own
        (Checked.sound_binary (sound_of_binaryRest read sound)).2
      have later := context.binaryRest k (.binary op left right) read sound
      have plain := plain_of_binaryOperator found
      refine .of_step ((inner.consumes.trans later.consumes).cons plain) fun more le => ?_
      rw [closed_symbol, Formula.binaryRest, found]
      simp only [Option.bind_eq_bind, inner.reads more le, Option.bind_some]
      exact later.reads more le
    case h_2 none =>
      cases read
      refine .of_step (.refl _) fun more le => ?_
      rw [closed_symbol, Formula.binaryRest, none]
  case h_2 other =>
    cases read
    refine .of_step (.refl _) fun more le => ?_
    rw [Formula.binaryRest.eq_def]
    dsimp only
    split
    case h_1 s us same =>
      have parenthesis : s = .closeParen := by
        by_contra foreign
        obtain ⟨ts', rfl, -⟩ := head_of_closed (by simpa using foreign) same
        exact other s ts' rfl
      have none : binaryOperator? k .closeParen = none := by
        unfold binaryOperator?
        split <;> first | rfl | (rename_i same; cases same)
      rw [parenthesis, none, same, parenthesis]
    case h_2 => rfl

lemma factor_step : Keeps tail (fuel + 1) (fun c _ => c.Sound) Formula.factor := by
  intro ts c rest read sound
  rw [Formula.factor.eq_def] at read
  dsimp only at read
  split at read
  case h_1 | h_2 =>
    obtain ⟨⟨c, rest⟩, found, same⟩ := Option.map_eq_some_iff.1 read
    cases same
    have inner := context.factor found (Checked.sound_unary sound)
    refine .of_step (inner.consumes.cons rfl) fun more le => ?_
    rw [closed_symbol, Formula.factor, inner.reads more le]
    rfl
  case h_3 =>
    obtain ⟨⟨c, rest⟩, -, same⟩ := Option.map_eq_some_iff.1 read
    cases same
    exact absurd sound Checked.unsound_error
  case h_4 plus minus tilde =>
    have inner := context.power read sound
    refine .of_step inner.consumes fun more le => ?_
    rw [Formula.factor]
    · exact inner.reads more le
    · exact closed_ne (by simp) plus
    · exact closed_ne (by simp) minus
    · exact closed_ne (by simp) tilde

lemma power_step : Keeps tail (fuel + 1) (fun c _ => c.Sound) Formula.power := by
  intro ts c rest read sound
  rw [Formula.power.eq_def] at read
  dsimp only at read
  split at read
  case h_1 =>
    -- what is awaited is no formula, with an exponent or without
    obtain ⟨⟨base, ts'⟩, own, read⟩ := Option.bind_eq_some_iff.1 read
    obtain ⟨⟨c, rest⟩, -, same⟩ := Option.map_eq_some_iff.1 own
    cases same
    obtain ⟨e, same⟩ := sound
    dsimp only at read
    split at read
    · obtain ⟨⟨exponent, ts''⟩, -, same'⟩ := Option.bind_eq_some_iff.1 read
      cases same'
      cases same
    · cases read
      cases same
  case h_2 other =>
    obtain ⟨⟨base, ts'⟩, own, read⟩ := Option.bind_eq_some_iff.1 read
    dsimp only at read
    split at read
    case h_1 ts'' same =>
      obtain ⟨⟨exponent, ts''⟩, raised, same⟩ := Option.bind_eq_some_iff.1 read
      cases same
      have sound := Checked.sound_binary sound
      have inner := context.primary own sound.1
      have later := context.factor raised sound.2
      refine .of_step (inner.consumes.trans (later.consumes.cons rfl)) fun more le => ?_
      rw [power_unawaited (closed_ne (by simp) other), inner.reads more le]
      simp only [Option.bind_some, closed_symbol, later.reads more le]
    case h_2 plain =>
      cases read
      have inner := context.primary own sound
      refine .of_step inner.consumes fun more le => ?_
      rw [power_unawaited (closed_ne (by simp) other), inner.reads more le]
      simp only [Option.bind_some]
      split
      case h_1 us same => exact absurd same (closed_ne (by simp) plain us)
      case h_2 => rfl

lemma primary_step : Keeps tail (fuel + 1) (fun c _ => c.Sound) Formula.primary := by
  intro ts c rest read sound
  rw [Formula.primary] at read
  obtain ⟨⟨value, ts'⟩, own, read⟩ := Option.bind_eq_some_iff.1 read
  have inner := context.atom own (sound_of_trailers read sound)
  have later := context.trailers value read sound
  refine .of_step (inner.consumes.trans later.consumes) fun more le => ?_
  rw [Formula.primary]
  simp only [Option.bind_eq_bind, inner.reads more le, Option.bind_some]
  exact later.reads more le

lemma trailers_step (value : Checked) :
    Keeps tail (fuel + 1) (fun c _ => c.Sound) fun fuel => Formula.trailers fuel value := by
  intro ts c rest read sound
  dsimp only at read
  rw [Formula.trailers.eq_def] at read
  dsimp only at read
  split at read
  case h_1 =>
    exact absurd (sound_of_trailers read sound) Checked.unsound_error
  case h_2 ts =>
    obtain ⟨⟨⟨args, named⟩, ts'⟩, own, read⟩ := Option.bind_eq_some_iff.1 read
    obtain ⟨-, plain, each⟩ := Checked.sound_call (sound_of_trailers read sound)
    have inner := context.arguments true 0 own ⟨each, plain⟩
    have later := context.trailers _ read sound
    refine .of_step ((inner.consumes.trans later.consumes).cons rfl) fun more le => ?_
    rw [closed_symbol, Formula.trailers]
    simp only [Option.bind_eq_bind, inner.reads more le, Option.bind_some]
    exact later.reads more le
  case h_3 =>
    obtain ⟨ts', -, read⟩ := Option.bind_eq_some_iff.1 read
    exact absurd (sound_of_trailers read sound) Checked.unsound_error
  case h_4 member opening element =>
    cases read
    refine .of_step (.refl _) fun more le => ?_
    rw [Formula.trailers]
    · exact fun n => closed_ne_pair (by simp) (by simp) (member n)
    · exact closed_ne (by simp) opening
    · exact closed_ne (by simp) element

lemma furtherArguments_step (phase : Nat) :
    Keeps tail (fuel + 1) (fun args _ => (∀ c ∈ args.1, c.Sound) ∧ args.2 = false)
      fun fuel => Formula.furtherArguments fuel phase := by
  intro ts args rest read sound
  dsimp only at read
  rw [Formula.furtherArguments.eq_def] at read
  dsimp only at read
  split at read
  case h_1 ts =>
    have inner := context.arguments false phase read sound
    refine .of_step (inner.consumes.cons rfl) fun more le => ?_
    rw [closed_symbol, Formula.furtherArguments]
    exact inner.reads more le
  case h_2 ts =>
    cases read
    refine .of_step ((Consumes.refl _).cons rfl) fun more le => ?_
    rw [closed_symbol, Formula.furtherArguments]
  case h_3 => cases read

lemma arguments_step (sole : Bool) (phase : Nat) :
    Keeps tail (fuel + 1) (fun args _ => (∀ c ∈ args.1, c.Sound) ∧ args.2 = false)
      fun fuel => Formula.arguments fuel sole phase := by
  intro ts args rest read sound
  dsimp only at read
  rw [Formula.arguments.eq_def] at read
  dsimp only at read
  split at read
  case h_1 ts =>
    cases read
    refine .of_step ((Consumes.refl _).cons rfl) fun more le => ?_
    rw [closed_symbol, Formula.arguments]
    rfl
  case h_2 =>
    split_ifs at read
    obtain ⟨⟨c, ts'⟩, -, read⟩ := Option.bind_eq_some_iff.1 read
    obtain ⟨⟨⟨cs, named⟩, ts''⟩, -, same⟩ := Option.bind_eq_some_iff.1 read
    cases same
    exact absurd (sound.1 _ (.head _)) Checked.unsound_error
  case h_3 | h_4 =>
    obtain ⟨⟨c, ts'⟩, -, read⟩ := Option.bind_eq_some_iff.1 read
    obtain ⟨⟨⟨cs, named⟩, ts''⟩, -, same⟩ := Option.bind_eq_some_iff.1 read
    cases same
    cases sound.2
  case h_5 ending star table assigned =>
    split_ifs at read with first
    obtain ⟨⟨c, ts'⟩, own, read⟩ := Option.bind_eq_some_iff.1 read
    dsimp only at read
    split_ifs at read with generator
    · obtain ⟨ts'', -, read⟩ := Option.bind_eq_some_iff.1 read
      obtain ⟨ts₃, -, same⟩ := Option.bind_eq_some_iff.1 read
      cases same
      exact absurd (sound.1 _ (.head _)) Checked.unsound_error
    · obtain ⟨⟨⟨cs, isNamed⟩, ts''⟩, further, same⟩ := Option.bind_eq_some_iff.1 read
      cases same
      have inner := context.named own ⟨sound.1 _ (.head _), afterWord_of_furtherArguments further _⟩
      have later := context.furtherArguments phase further
        ⟨fun c mem => sound.1 c (.tail _ mem), sound.2⟩
      refine .of_step (inner.consumes.trans later.consumes) fun more le => ?_
      rw [Formula.arguments]
      · simp only [if_pos first, Option.bind_eq_bind, inner.reads more le, Option.bind_some,
          startsClause_closed, if_neg generator, later.reads more le]
        rfl
      · exact closed_ne_closing own
      · exact closed_ne (by simp) star
      · exact closed_ne (by simp) table
      · exact fun n => closed_ne_pair (by simp) (by simp) (assigned n)

lemma atom_step : Keeps tail (fuel + 1) (fun c _ => c.Sound) Formula.atom := by
  intro ts c rest read sound
  rw [Formula.atom.eq_def] at read
  dsimp only at read
  split at read
  case h_4 | h_5 =>
    cases read
    refine .of_step ((Consumes.refl _).cons rfl) fun more le => ?_
    simp only [closed_name, closed_number, Formula.atom]
  case h_9 =>
    have inner := context.inParens read sound
    refine .of_step (inner.consumes.cons rfl) fun more le => ?_
    rw [closed_symbol, Formula.atom]
    exact inner.reads more le
  case h_8 => exact absurd sound (unsound_text read)
  case h_10 => exact absurd sound (unsound_inBrackets read)
  case h_11 => exact absurd sound (unsound_inBraces read)
  case h_12 => cases read
  all_goals
    cases read
    exact absurd sound Checked.unsound_error

lemma inParens_step : Keeps tail (fuel + 1) (fun c _ => c.Sound) Formula.inParens := by
  intro ts c rest read sound
  rw [Formula.inParens.eq_def] at read
  dsimp only at read
  split at read
  case h_6 ending from_ bare yielded star =>
    obtain ⟨⟨c, ts'⟩, own, read⟩ := Option.bind_eq_some_iff.1 read
    dsimp only at read
    split at read
    case h_1 ts'' =>
      cases read
      have inner := context.named own ⟨sound, rfl⟩
      refine .of_step (inner.consumes.trans ((Consumes.refl _).cons rfl)) fun more le => ?_
      rw [Formula.inParens]
      · simp only [Option.bind_eq_bind, inner.reads more le, Option.bind_some, closed_symbol]
        rfl
      · exact closed_ne_closing own
      · exact fun us => closed_ne (by simp) yielded _
      · exact fun us => closed_ne (by simp) yielded _
      · exact closed_ne (by simp) yielded
      · exact closed_ne (by simp) star
    case h_2 =>
      obtain ⟨ts'', -, same⟩ := Option.bind_eq_some_iff.1 read
      cases same
      exact absurd sound Checked.unsound_error
    case h_3 =>
      obtain ⟨ts'', -, read⟩ := Option.bind_eq_some_iff.1 read
      obtain ⟨ts₃, -, same⟩ := Option.bind_eq_some_iff.1 read
      cases same
      exact absurd sound Checked.unsound_error
  case h_2 | h_4 =>
    obtain ⟨_, -, read⟩ := Option.bind_eq_some_iff.1 read
    obtain ⟨_, -, same⟩ := Option.bind_eq_some_iff.1 read
    cases same
    exact absurd sound Checked.unsound_error
  case h_5 =>
    obtain ⟨_, -, read⟩ := Option.bind_eq_some_iff.1 read
    obtain ⟨_, -, read⟩ := Option.bind_eq_some_iff.1 read
    obtain ⟨_, -, same⟩ := Option.bind_eq_some_iff.1 read
    cases same
    exact absurd sound Checked.unsound_error
  all_goals
    cases read
    exact absurd sound Checked.unsound_error

lemma named_step :
    Keeps tail (fuel + 1) (fun c rest => c.Sound ∧ afterWord? "if" rest = none) Formula.named := by
  intro ts c rest read sound
  rw [Formula.named.eq_def] at read
  dsimp only at read
  split at read
  case h_1 =>
    obtain ⟨⟨c, ts'⟩, -, same⟩ := Option.bind_eq_some_iff.1 read
    cases same
    exact absurd sound.1 Checked.unsound_error
  case h_2 other =>
    obtain ⟨⟨c, ts'⟩, own, read⟩ := Option.bind_eq_some_iff.1 read
    dsimp only at read
    split at read
    case h_1 | h_2 => cases read
    case h_3 walrus assigned =>
      cases read
      have inner := context.expression own sound
      refine .of_step inner.consumes fun more le => ?_
      rw [Formula.named]
      · simp only [Option.bind_eq_bind, inner.reads more le, Option.bind_some]
        split
        case h_1 us same => exact absurd same (closed_ne (by simp) walrus us)
        case h_2 us same => exact absurd same (closed_ne (by simp) assigned us)
        case h_3 => rfl
      · exact fun n => closed_ne_pair (by simp) (by simp) (other n)

lemma expression_step :
    Keeps tail (fuel + 1) (fun c rest => c.Sound ∧ afterWord? "if" rest = none)
      Formula.expression := by
  intro ts c rest read sound
  rw [Formula.expression.eq_def] at read
  dsimp only at read
  split at read
  case h_1 =>
    obtain ⟨ts', -, read⟩ := Option.bind_eq_some_iff.1 read
    obtain ⟨⟨c, ts''⟩, -, same⟩ := Option.bind_eq_some_iff.1 read
    cases same
    exact absurd sound.1 Checked.unsound_error
  case h_2 other =>
    obtain ⟨⟨first, ts'⟩, own, read⟩ := Option.bind_eq_some_iff.1 read
    dsimp only at read
    cases condition : afterWord? "if" ts' with
    | none =>
      rw [condition] at read
      cases read
      have inner := context.row .or own sound.1
      refine .of_step inner.consumes fun more le => ?_
      have reads : disjunction more (closed tail ts) = some (c, closed tail rest) :=
        inner.reads more le
      rw [Formula.expression]
      · simp only [Option.bind_eq_bind, reads, Option.bind_some, afterWord_closed condition]
        rfl
      · exact closed_ne (by simp) other
    | some ts'' =>
      -- a conditional is no formula, and what is left over would start with its word
      rcases Option.getD_eq_iff.1 (Option.some.inj read) with found | ⟨-, same⟩
      · obtain ⟨_, -, found⟩ := Option.bind_eq_some_iff.1 found
        obtain ⟨_, -, found⟩ := Option.bind_eq_some_iff.1 found
        obtain ⟨_, -, found⟩ := Option.bind_eq_some_iff.1 found
        obtain ⟨_, -, same⟩ := Option.bind_eq_some_iff.1 found
        cases same
        exact absurd sound.1 Checked.unsound_error
      · cases same
        rw [sound.2] at condition
        cases condition

end Context

/-- With all fuel, what the readers of formulas read carries over. -/
lemma context (tail : List Token) (fuel : Nat) : Context tail fuel := by
  induction fuel with
  | zero =>
    have none {α : Type} {good : α → List Token → Prop}
        {read : Nat → List Token → Option (α × List Token)} (stuck : ∀ ts, read 0 ts = none) :
        Keeps tail 0 good read := by
      intro ts a rest found
      rw [stuck] at found
      cases found
    exact {
      expression := none fun _ => by rw [expression]
      row := fun op => none fun ts => by
        cases op with
        | and => exact conjunction.eq_1 ts
        | or => exact disjunction.eq_1 ts
      more := fun op => none fun ts => by
        cases op with
        | and => exact conjuncts.eq_1 ts
        | or => exact disjuncts.eq_1 ts
      inversion := none fun _ => by rw [inversion]
      comparison := none fun _ => by rw [comparison]
      comparisons := none fun _ => by rw [comparisons]
      binary := fun _ => none fun _ => by rw [binary]
      binaryRest := fun _ _ => none fun _ => by rw [binaryRest]
      factor := none fun _ => by rw [factor]
      power := none fun _ => by rw [power]
      primary := none fun _ => by rw [primary]
      trailers := fun _ => none fun _ => by rw [trailers]
      arguments := fun _ _ => none fun _ => by rw [arguments]
      furtherArguments := fun _ => none fun _ => by rw [furtherArguments]
      atom := none fun _ => by rw [atom]
      inParens := none fun _ => by rw [inParens]
      named := none fun _ => by rw [named] }
  | succ fuel ih =>
    exact {
      expression := ih.expression_step
      row := ih.row_step
      more := ih.more_step
      inversion := ih.inversion_step
      comparison := ih.comparison_step
      comparisons := ih.comparisons_step
      binary := ih.binary_step
      binaryRest := ih.binaryRest_step
      factor := ih.factor_step
      power := ih.power_step
      primary := ih.primary_step
      trailers := ih.trailers_step
      arguments := ih.arguments_step
      furtherArguments := ih.furtherArguments_step
      atom := ih.atom_step
      inParens := ih.inParens_step
      named := ih.named_step }

/-! ## Whole formulas -/

variable {ts : List Token} {fuel : Nat} {e : Expr}

lemma closed_append {own : List Token} (plain : ∀ t ∈ own, t.plain) (tail rest : List Token) :
    closed tail (own ++ rest) = own ++ closed tail rest := by
  induction own with
  | nil => rfl
  | cons t own ih =>
    obtain ⟨first, others⟩ := List.forall_mem_cons.1 plain
    rw [List.cons_append, closed_cons, ih others]
    · rfl
    · rintro rfl
      cases first

/-- A formula is read with line ends only after it. -/
lemma expression_of_checkedOfTokens (read : checkedOfTokens? fuel ts = some (.ok e)) :
    ∃ rest, expression fuel ts = some (.ok e, rest) ∧ ∀ t ∈ rest, t = .line := by
  obtain ⟨⟨c, rest⟩, own, read⟩ := Option.bind_eq_some_iff.1 read
  dsimp only at read
  split at read
  case h_1 =>
    obtain ⟨ts', -, read⟩ := Option.bind_eq_some_iff.1 read
    split_ifs at read
    cases read
  case h_2 =>
    split_ifs at read with ends
    cases read
    exact ⟨rest, own, by simpa [isEnd] using ends⟩

/-- A whole formula is read before a parenthesis, and its tokens are those that end no line. -/
lemma named_closed (read : checkedOfTokens? fuel ts = some (.ok e)) (tail : List Token) {more : Nat}
    (le : fuel ≤ more) :
    named (more + 1) (ts.filter (· ≠ .line) ++ .symbol .closeParen :: tail) =
      some (.ok e, .symbol .closeParen :: tail) := by
  obtain ⟨rest, own, ends⟩ := expression_of_checkedOfTokens read
  have none : afterWord? "if" rest = none := by
    cases rest with
    | nil => rfl
    | cons t rest =>
      rw [ends t (.head _)]
      rfl
  have carries := (context tail fuel).expression own ⟨⟨e, rfl⟩, none⟩
  obtain ⟨ts, rfl, plain⟩ := carries.consumes
  have inside : ∀ t ∈ ts, t ≠ .line := by
    rintro _ mem rfl
    cases plain _ mem
  have outside : rest.filter (· ≠ .line) = [] := by
    simpa [List.filter_eq_nil_iff] using ends
  have left : closed tail rest = .symbol .closeParen :: tail := by
    cases rest with
    | nil => rfl
    | cons t rest => rw [ends t (.head _), closed_line]
  have reads := carries.reads more le
  rw [closed_append plain, left] at reads
  rw [List.filter_append, outside, List.append_nil,
    List.filter_eq_self.2 fun t mem => by simpa using inside t mem, named]
  · rw [reads]
    rfl
  · intro n us same
    rcases ts with _ | ⟨t, _ | ⟨t', ts⟩⟩ <;> cases same
    cases plain (.symbol .walrus) (by simp)

end Inspection.Formula
