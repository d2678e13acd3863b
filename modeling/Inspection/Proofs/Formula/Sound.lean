import Inspection.Proofs.Formula.Operands

/-!
# Expressions that are formulas

What is read of a text may be an expression that is no formula, and is checked while it is read.
An expression is a formula only if its parts are (`Checked.sound_call`, `sound_of_trailers`), and
texts, lists and tables never are one (`unsound_text`, `unsound_inBrackets`, `unsound_inBraces`).
-/

namespace Inspection.Formula

/-- The expression is a formula. -/
def Checked.Sound (c : Checked) : Prop :=
  ∃ e, c = .ok e

variable {ts rest : List Token} {fuel : Nat}

namespace Checked

variable {c c' : Checked} {cs : List Checked}

lemma unsound_error {u : Unsupported} : ¬ Checked.Sound (.error u) :=
  nofun

lemma sound_unary {op : Unary} (sound : (unary op c).Sound) : c.Sound := by
  obtain ⟨e, same⟩ := sound
  cases c with
  | error => cases same
  | ok e => exact ⟨e, rfl⟩

lemma sound_all (h : ∃ es, cs.mapM id = .ok es) : ∀ c ∈ cs, c.Sound := by
  induction cs with
  | nil => exact nofun
  | cons c cs ih =>
    obtain ⟨es, same⟩ := h
    rw [List.mapM_cons] at same
    cases c with
    | error => cases same
    | ok e =>
      cases more : cs.mapM id with
      | error =>
        rw [more] at same
        cases same
      | ok es =>
        intro c mem
        rcases List.mem_cons.1 mem with rfl | mem
        · exact ⟨e, rfl⟩
        · exact ih ⟨es, more⟩ c mem

/-- Conditions in a row are formulas if the row is one. -/
lemma sound_connected {op : Connective}
    (sound : (if cs.isEmpty then c else connect op (c :: cs)).Sound) :
    c.Sound ∧ ∀ c ∈ cs, c.Sound := by
  cases cs with
  | nil => exact ⟨sound, nofun⟩
  | cons c' cs =>
    obtain ⟨e, same⟩ := sound
    rw [List.isEmpty_cons, if_neg (by decide), connect] at same
    cases all : (c :: c' :: cs).mapM id with
    | error =>
      rw [all] at same
      cases same
    | ok es =>
      have each := sound_all ⟨es, all⟩
      exact ⟨each c (.head _), fun d mem => each d (.tail _ mem)⟩

lemma sound_binary {op : ForeignOperator ⊕ Arith} (sound : (binary op c c').Sound) :
    c.Sound ∧ c'.Sound := by
  obtain ⟨e, same⟩ := sound
  cases op with
  | inl op => cases same
  | inr op =>
    cases c with
    | error => cases same
    | ok a =>
      cases c' with
      | error => cases same
      | ok b => exact ⟨⟨a, rfl⟩, b, rfl⟩

lemma sound_relations {rs : List (ForeignRelation ⊕ Relation)} (h : ∃ rs', relations rs = .ok rs') :
    ∀ r ∈ rs, r.isRight := by
  induction rs with
  | nil => exact nofun
  | cons r rs ih =>
    obtain ⟨rs', same⟩ := h
    cases r with
    | inl r => cases same
    | inr r =>
      cases found : relations rs with
      | error =>
        rw [relations, found] at same
        cases same
      | ok rs' =>
        intro r' mem
        rcases List.mem_cons.1 mem with rfl | mem
        · rfl
        · exact ih ⟨rs', found⟩ r' mem

/-- Compared operands are formulas if the chain is one. -/
lemma sound_compared {rs : List ((ForeignRelation ⊕ Relation) × Checked)}
    (sound : (if rs.isEmpty then c else compare c rs).Sound) :
    c.Sound ∧ ∀ r ∈ rs, r.1.isRight ∧ r.2.Sound := by
  cases rs with
  | nil => exact ⟨sound, nofun⟩
  | cons r rs =>
    obtain ⟨e, same⟩ := sound
    rw [List.isEmpty_cons, if_neg (by decide), compare] at same
    cases own : relations ((r :: rs).map Prod.fst) with
    | error =>
      rw [own] at same
      cases same
    | ok rs' =>
      rw [own] at same
      cases c with
      | error => cases same
      | ok a =>
        cases all : (r :: rs).mapM Prod.snd with
        | error =>
          rw [all] at same
          cases same
        | ok es =>
          have operands : ∀ c ∈ (r :: rs).map Prod.snd, c.Sound :=
            sound_all ⟨es, by rw [List.mapM_map]; exact all⟩
          have signs := sound_relations ⟨rs', own⟩
          exact ⟨⟨a, rfl⟩, fun r' mem => ⟨signs _ (List.mem_map_of_mem mem),
            operands _ (List.mem_map_of_mem mem)⟩⟩

lemma sound_call {named : Bool} {args : List Checked} (sound : (call c args named).Sound) :
    c.Sound ∧ named = false ∧ ∀ a ∈ args, a.Sound := by
  obtain ⟨e, same⟩ := sound
  unfold call at same
  split at same
  case h_1 f =>
    cases named with
    | true => cases same
    | false =>
      cases all : args.mapM id with
      | error =>
        rw [all] at same
        cases same
      | ok es => exact ⟨⟨_, rfl⟩, rfl, sound_all ⟨es, all⟩⟩
  case h_2 => cases same

end Checked

/-- What is no formula stays none with operators after it. -/
lemma sound_of_binaryRest {k : Nat} {left c : Checked}
    (read : binaryRest fuel k left ts = some (c, rest)) (sound : c.Sound) : left.Sound := by
  induction fuel generalizing left ts with
  | zero =>
    rw [binaryRest] at read
    cases read
  | succ fuel ih =>
    rw [binaryRest.eq_def] at read
    dsimp only at read
    split at read
    case h_1 =>
      split at read
      case h_1 =>
        obtain ⟨⟨right, ts'⟩, -, read⟩ := Option.bind_eq_some_iff.1 read
        exact (Checked.sound_binary (ih read)).1
      case h_2 =>
        cases read
        exact sound
    case h_2 =>
      cases read
      exact sound

/-- What is no formula stays none with calls, members and elements after it. -/
lemma sound_of_trailers {value c : Checked} (read : trailers fuel value ts = some (c, rest))
    (sound : c.Sound) : value.Sound := by
  induction fuel generalizing value ts with
  | zero =>
    rw [trailers] at read
    cases read
  | succ fuel ih =>
    rw [trailers.eq_def] at read
    dsimp only at read
    split at read
    case h_1 =>
      obtain ⟨e, same⟩ := ih read
      cases same
    case h_2 =>
      obtain ⟨⟨⟨args, named⟩, ts'⟩, -, read⟩ := Option.bind_eq_some_iff.1 read
      exact (Checked.sound_call (ih read)).1
    case h_3 =>
      obtain ⟨ts', -, read⟩ := Option.bind_eq_some_iff.1 read
      obtain ⟨e, same⟩ := ih read
      cases same
    case h_4 =>
      cases read
      exact sound

lemma unsound_joinedTexts {texts : List TextLiteral} {c : Checked}
    (read : joinedTexts? texts = some c) : ¬ c.Sound := by
  unfold joinedTexts? at read
  dsimp only at read
  rintro ⟨e, rfl⟩
  split_ifs at read <;> cases read

lemma unsound_inBrackets {c : Checked} (read : inBrackets fuel ts = some (c, rest)) :
    ¬ c.Sound := by
  rintro ⟨e, rfl⟩
  rw [inBrackets.eq_def] at read
  split at read
  case h_1 => cases read
  case h_2 =>
    split at read
    case h_1 => cases read
    case h_2 =>
      obtain ⟨ts', -, same⟩ := Option.bind_eq_some_iff.1 read
      cases same
    case h_3 =>
      obtain ⟨⟨_, ts'⟩, -, read⟩ := Option.bind_eq_some_iff.1 read
      dsimp only at read
      split_ifs at read
      · obtain ⟨ts'', -, read⟩ := Option.bind_eq_some_iff.1 read
        obtain ⟨ts₃, -, same⟩ := Option.bind_eq_some_iff.1 read
        cases same
      · obtain ⟨ts'', -, same⟩ := Option.bind_eq_some_iff.1 read
        cases same

lemma unsound_inBraces {c : Checked} (read : inBraces fuel ts = some (c, rest)) :
    ¬ c.Sound := by
  rintro ⟨e, rfl⟩
  rw [inBraces.eq_def] at read
  split at read
  case h_1 => cases read
  case h_2 =>
    split at read
    case h_1 => cases read
    case h_2 | h_3 =>
      obtain ⟨ts', -, same⟩ := Option.bind_eq_some_iff.1 read
      cases same
    case h_4 =>
      obtain ⟨⟨_, ts'⟩, -, read⟩ := Option.bind_eq_some_iff.1 read
      dsimp only at read
      split at read
      case h_1 =>
        obtain ⟨⟨_, ts''⟩, -, read⟩ := Option.bind_eq_some_iff.1 read
        dsimp only at read
        split_ifs at read
        · obtain ⟨ts₃, -, read⟩ := Option.bind_eq_some_iff.1 read
          obtain ⟨ts₄, -, same⟩ := Option.bind_eq_some_iff.1 read
          cases same
        · obtain ⟨ts₃, -, same⟩ := Option.bind_eq_some_iff.1 read
          cases same
      case h_2 =>
        split_ifs at read
        · obtain ⟨ts'', -, read⟩ := Option.bind_eq_some_iff.1 read
          obtain ⟨ts₃, -, same⟩ := Option.bind_eq_some_iff.1 read
          cases same
        · obtain ⟨ts'', -, same⟩ := Option.bind_eq_some_iff.1 read
          cases same

/-- A text is no formula. -/
lemma unsound_text {t : TextLiteral} {c : Checked}
    (read : (do
      let (texts, ts) := adjacentTexts (.text t :: ts)
      let result ← joinedTexts? texts
      if ← fieldsRead fuel (fields texts) then return (result, ts) else none) = some (c, rest)) :
    ¬ c.Sound := by
  dsimp only at read
  obtain ⟨c', joined, read⟩ := Option.bind_eq_some_iff.1 read
  obtain ⟨b, -, read⟩ := Option.bind_eq_some_iff.1 read
  split_ifs at read
  cases read
  exact unsound_joinedTexts joined

/-! ## Tokens that no operand starts with -/

variable {t : Token}

/-- No operand starts with the token. -/
def Token.idle : Token → Bool
  | .line | .symbol .closeParen | .symbol .star => true
  | .word w => w = "yield"
  | _ => false

/-- No operand starts the tokens. -/
def Bare (ts : List Token) : Prop :=
  ∀ t ∈ ts.head?, t.idle

namespace Bare

lemma ne (bare : Bare ts) (other : t.idle = false) (us : List Token) : ts ≠ t :: us := by
  rintro rfl
  rw [bare t rfl] at other
  cases other

lemma atom (bare : Bare ts) : atom fuel ts = none := by
  cases fuel with
  | zero => rw [Formula.atom]
  | succ fuel =>
    rw [Formula.atom.eq_def]
    dsimp only
    split
    case h_12 => rfl
    all_goals exact absurd rfl (bare.ne (by rfl) _)

lemma primary (bare : Bare ts) : primary fuel ts = none := by
  cases fuel with
  | zero => rw [Formula.primary]
  | succ fuel =>
    rw [Formula.primary, bare.atom]
    rfl

lemma power (bare : Bare ts) : power fuel ts = none := by
  cases fuel with
  | zero => rw [Formula.power]
  | succ fuel =>
    rw [Formula.power, bare.primary]
    · rfl
    · exact bare.ne rfl

lemma factor (bare : Bare ts) : factor fuel ts = none := by
  cases fuel with
  | zero => rw [Formula.factor]
  | succ fuel =>
    rw [Formula.factor, bare.power]
    all_goals exact bare.ne rfl

lemma binary (bare : Bare ts) (k : Nat) : binary fuel k ts = none := by
  induction fuel generalizing k with
  | zero => rw [Formula.binary]
  | succ fuel ih =>
    rw [Formula.binary, bare.factor, ih]
    split_ifs <;> rfl

lemma inversion (bare : Bare ts) : inversion fuel ts = none := by
  match fuel with
  | 0 => rw [Formula.inversion]
  | 1 =>
    rw [Formula.inversion, Formula.comparison]
    exact bare.ne rfl
  | fuel + 2 =>
    rw [Formula.inversion, Formula.comparison, bare.binary]
    · rfl
    · exact bare.ne rfl

lemma row (bare : Bare ts) (op : Connective) : parser op.level fuel ts = none := by
  have conjunction (fuel : Nat) : Formula.conjunction fuel ts = none := by
    cases fuel with
    | zero => rw [Formula.conjunction]
    | succ fuel =>
      rw [Formula.conjunction, bare.inversion]
      rfl
  cases op with
  | and => exact conjunction fuel
  | or =>
    change Formula.disjunction fuel ts = none
    cases fuel with
    | zero => rw [Formula.disjunction]
    | succ fuel =>
      rw [Formula.disjunction, conjunction]
      rfl

lemma named (bare : Bare ts) : named fuel ts = none := by
  match fuel with
  | 0 => rw [Formula.named]
  | 1 =>
    rw [Formula.named, Formula.expression]
    · rfl
    · rintro n us rfl
      exact bare.ne (by rfl) _ rfl
  | fuel + 2 =>
    have none : Formula.disjunction fuel ts = none := bare.row .or
    rw [Formula.named, Formula.expression, none]
    · rfl
    · exact bare.ne rfl
    · rintro n us rfl
      exact bare.ne (by rfl) _ rfl

end Bare

end Inspection.Formula
