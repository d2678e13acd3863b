import Inspection.Fault
import Mathlib.Data.List.Forall2
import Mathlib.Tactic.Lemma

/-!
# Outcomes of chains

When a chain of steps that may fail succeeds. `bind_eq_ok` takes a chain of two apart and
`mapM_eq_ok` a step made for each item of a list; `mapM_perm` says that the order of the items
decides neither whether the steps succeed nor what they give. A reading of several parts finds its
value just if every part is found (`Reading.seq_eq_found`).
-/

namespace Inspection

section

variable {ε α β : Type}

/-- A chain of two succeeds just if both steps do. -/
lemma bind_eq_ok {x : Except ε α} {f : α → Except ε β} {b : β} :
    (x >>= f) = .ok b ↔ ∃ a, x = .ok a ∧ f a = .ok b := by
  cases x with
  | error e => simp [bind, Except.bind]
  | ok a => simp [bind, Except.bind]

/-- A chain of two fails just if one of the steps does. -/
lemma bind_eq_error {x : Except ε α} {f : α → Except ε β} {e : ε} :
    (x >>= f) = .error e ↔ x = .error e ∨ ∃ a, x = .ok a ∧ f a = .error e := by
  cases x with
  | error e' => simp [bind, Except.bind]
  | ok a => simp [bind, Except.bind]

/-- A step without effect is its value. -/
lemma pure_eq_ok {a b : α} : (pure a : Except ε α) = .ok b ↔ a = b := by
  simp [pure, Except.pure]

/-- A value that is made into another is there just if the first one is. -/
lemma map_eq_ok {x : Except ε α} {f : α → β} {b : β} :
    x.map f = .ok b ↔ ∃ a, x = .ok a ∧ f a = b := by
  cases x with
  | error e => simp [Except.map]
  | ok a => simp [Except.map]

/-- An outcome that has a value is that value. -/
lemma eq_ok_of_toOption {x : Except ε α} {a : α} (h : x.toOption = some a) : x = .ok a := by
  cases x with
  | error e => cases h
  | ok b => rw [Option.some.inj h]

/-- A first step that succeeds hands its value on. -/
@[simp] lemma ok_bind (a : α) (f : α → Except ε β) : ((.ok a : Except ε α) >>= f) = f a := rfl

/-- A first step that fails ends the chain. -/
@[simp] lemma error_bind (e : ε) (f : α → Except ε β) :
    ((.error e : Except ε α) >>= f) = .error e := rfl

/-- A failure in other words is one in its own. -/
lemma Outcome.of_eq_error {fault : ε → Fault} {x : Except ε α} {e : Fault} :
    Outcome.of fault x = .error e ↔ ∃ flaw, x = .error flaw ∧ fault flaw = e := by
  cases x with
  | error flaw => simp [Outcome.of]
  | ok a => simp [Outcome.of]

/-- A failure in other words succeeds just if there is none. -/
lemma Outcome.of_eq_ok {fault : ε → Fault} {x : Except ε α} {a : α} :
    Outcome.of fault x = .ok a ↔ x = .ok a := by
  cases x with
  | error e => simp [Outcome.of]
  | ok b => simp [Outcome.of]

/-- A step for each item succeeds just if it does for every item. -/
lemma mapM_eq_ok {f : α → Except ε β} {l : List α} {r : List β} :
    l.mapM f = .ok r ↔ List.Forall₂ (fun a b => f a = .ok b) l r := by
  induction l generalizing r with
  | nil =>
    rw [List.mapM_nil, pure_eq_ok, List.forall₂_nil_left_iff, eq_comm]
  | cons a rest ih =>
    rw [List.mapM_cons, bind_eq_ok, List.forall₂_cons_left_iff]
    constructor
    · rintro ⟨b, hb, h⟩
      obtain ⟨bs, hbs, e⟩ := bind_eq_ok.1 h
      exact ⟨b, bs, hb, ih.1 hbs, (pure_eq_ok.1 e).symm⟩
    · rintro ⟨b, bs, hb, hbs, rfl⟩
      exact ⟨b, hb, bind_eq_ok.2 ⟨bs, ih.2 hbs, rfl⟩⟩

/-- A step for each item fails just as it does for the first item that it fails for. -/
lemma mapM_eq_error {f : α → Except ε β} {l : List α} {e : ε} :
    l.mapM f = .error e ↔ ∃ before a after, l = before ++ a :: after ∧
      (∀ a' ∈ before, ∃ b, f a' = .ok b) ∧ f a = .error e := by
  induction l with
  | nil => simp [pure, Except.pure]
  | cons first rest ih =>
    rw [List.mapM_cons, bind_eq_error]
    constructor
    · rintro (h | ⟨b, hb, h⟩)
      · exact ⟨[], first, rest, rfl, by simp, h⟩
      · obtain later | ⟨bs, -, h⟩ := bind_eq_error.1 h
        · obtain ⟨before, a, after, rfl, good, h⟩ := ih.1 later
          refine ⟨first :: before, a, after, rfl, fun a' mem => ?_, h⟩
          rcases List.mem_cons.1 mem with rfl | mem
          · exact ⟨b, hb⟩
          · exact good a' mem
        · cases h
    · rintro ⟨before, a, after, split, good, h⟩
      cases before with
      | nil =>
        cases split
        exact .inl h
      | cons first' before =>
        cases split
        obtain ⟨b, hb⟩ := good first List.mem_cons_self
        refine .inr ⟨b, hb, bind_eq_error.2 (.inl (ih.2 ⟨before, a, after, rfl, ?_, h⟩))⟩
        exact fun a' mem => good a' (List.mem_cons_of_mem _ mem)

/-- A step for each item fails only where it fails for one of the items. -/
lemma exists_of_mapM_eq_error {f : α → Except ε β} {l : List α} {e : ε} (h : l.mapM f = .error e) :
    ∃ a ∈ l, f a = .error e := by
  obtain ⟨before, a, after, rfl, -, h⟩ := mapM_eq_error.1 h
  exact ⟨a, by simp, h⟩

/-- Two rounds of steps, of which the second never fails, may be made item by item: no item has to
wait for another that fails in the second round. -/
lemma mapM_bind_mapM {γ : Type} {f : α → Except ε β} {g : β → Except ε γ}
    (total : ∀ b, ∃ c, g b = .ok c) (l : List α) :
    (l.mapM f >>= fun bs => bs.mapM g) = l.mapM fun a => f a >>= g := by
  induction l with
  | nil => rfl
  | cons a rest ih =>
    rw [List.mapM_cons, List.mapM_cons, ← ih]
    cases f a with
    | error e => rfl
    | ok b =>
      obtain ⟨c, hc⟩ := total b
      cases rest.mapM f with
      | error e => simp [hc]
      | ok bs => simp [hc, List.mapM_cons, pure, Except.pure]

/-- Steps for a list in two parts are those for the parts. -/
lemma mapM_append_eq_ok {f : α → Except ε β} {l l' : List α} {r : List β} :
    (l ++ l').mapM f = .ok r ↔ ∃ a b, l.mapM f = .ok a ∧ l'.mapM f = .ok b ∧ r = a ++ b := by
  rw [List.mapM_append, bind_eq_ok]
  constructor
  · rintro ⟨a, ha, h⟩
    obtain ⟨b, hb, e⟩ := bind_eq_ok.1 h
    exact ⟨a, b, ha, hb, (pure_eq_ok.1 e).symm⟩
  · rintro ⟨a, b, ha, hb, rfl⟩
    exact ⟨a, ha, bind_eq_ok.2 ⟨b, hb, rfl⟩⟩

/-- Steps that succeed for every item of a list succeed for the list. -/
lemma mapM_of_forall {f : α → Except ε β} {l : List α} (h : ∀ a ∈ l, ∃ b, f a = .ok b) :
    ∃ r, l.mapM f = .ok r := by
  induction l with
  | nil => exact ⟨[], rfl⟩
  | cons a rest ih =>
    obtain ⟨b, hb⟩ := h a List.mem_cons_self
    obtain ⟨bs, hbs⟩ := ih fun a' ha' => h a' (List.mem_cons_of_mem _ ha')
    exact ⟨b :: bs, mapM_eq_ok.2 (.cons hb (mapM_eq_ok.1 hbs))⟩

/-- The answer for an item of a list is among those for the list. -/
lemma exists_of_mapM {f : α → Except ε β} {l : List α} {r : List β} (h : l.mapM f = .ok r)
    {a : α} (mem : a ∈ l) : ∃ b ∈ r, f a = .ok b := by
  replace h := mapM_eq_ok.1 h
  induction h with
  | nil => cases mem
  | cons hb _ ih =>
    rcases List.mem_cons.1 mem with rfl | mem
    · exact ⟨_, List.mem_cons_self, hb⟩
    · obtain ⟨b, hb, hf⟩ := ih mem
      exact ⟨b, List.mem_cons_of_mem _ hb, hf⟩

/-- Each item of a list belongs to one of the list that it is related to item by item. -/
lemma exists_mem_of_forall₂ {R : α → β → Prop} {l : List α} {r : List β} (h : List.Forall₂ R l r)
    {b : β} (mem : b ∈ r) : ∃ a ∈ l, R a b := by
  induction h with
  | nil => cases mem
  | cons hb _ ih =>
    rcases List.mem_cons.1 mem with rfl | mem
    · exact ⟨_, List.mem_cons_self, hb⟩
    · obtain ⟨a, ha, hf⟩ := ih mem
      exact ⟨a, List.mem_cons_of_mem _ ha, hf⟩

/-- Each answer for a list is that for one of its items. -/
lemma exists_mem_of_mapM {f : α → Except ε β} {l : List α} {r : List β} (h : l.mapM f = .ok r)
    {b : β} (mem : b ∈ r) : ∃ a ∈ l, f a = .ok b :=
  exists_mem_of_forall₂ (mapM_eq_ok.1 h) mem

/-- What two lists have in common item by item, they have in common. -/
lemma map_of_forall₂ {γ : Type} {R : α → β → Prop} {g : α → γ} {g' : β → γ} {l : List α}
    {r : List β} (h : List.Forall₂ R l r) (keeps : ∀ a b, R a b → g' b = g a) :
    r.map g' = l.map g := by
  induction h with
  | nil => rfl
  | cons hb _ ih => rw [List.map_cons, List.map_cons, keeps _ _ hb, ih]

/-- What each step keeps, the answers for a list keep. -/
lemma map_of_mapM {γ : Type} {f : α → Except ε β} {g : α → γ} {g' : β → γ} {l : List α}
    {r : List β} (h : l.mapM f = .ok r) (keeps : ∀ a b, f a = .ok b → g' b = g a) :
    r.map g' = l.map g :=
  map_of_forall₂ (mapM_eq_ok.1 h) keeps

/-- Steps that agree on a list lead through it to the same outcome. -/
lemma foldlM_congr {f g : β → α → Except ε β} {l : List α} (h : ∀ b, ∀ a ∈ l, f b a = g b a)
    (b : β) : l.foldlM f b = l.foldlM g b := by
  induction l generalizing b with
  | nil => rfl
  | cons a rest ih =>
    rw [List.foldlM_cons, List.foldlM_cons, h b a List.mem_cons_self]
    congr 1
    funext b'
    exact ih (fun b a ha => h b a (List.mem_cons_of_mem _ ha)) b'

/-- In another order the items have the same answers, in that order. -/
lemma mapM_perm {f : α → Except ε β} {l l' : List α} {r : List β} (perm : l.Perm l')
    (h : l.mapM f = .ok r) : ∃ r', l'.mapM f = .ok r' ∧ r.Perm r' := by
  induction perm generalizing r with
  | nil => exact ⟨r, h, .refl r⟩
  | cons a _ ih =>
    cases mapM_eq_ok.1 h with
    | cons hb hbs =>
      obtain ⟨r', h', p⟩ := ih (mapM_eq_ok.2 hbs)
      exact ⟨_ :: r', mapM_eq_ok.2 (.cons hb (mapM_eq_ok.1 h')), p.cons _⟩
  | swap a b l =>
    cases mapM_eq_ok.1 h with
    | cons hb hbs =>
      cases hbs with
      | cons ha hrest => exact ⟨_, mapM_eq_ok.2 (.cons ha (.cons hb hrest)), .swap _ _ _⟩
  | trans _ _ ih₁ ih₂ =>
    obtain ⟨r', h', p'⟩ := ih₁ h
    obtain ⟨r'', h'', p''⟩ := ih₂ h'
    exact ⟨r'', h'', p'.trans p''⟩

end

namespace Reading

variable {α β : Type}

/-- A function of what is read gives its value just if that is found. -/
lemma map_eq_found {f : α → β} {a : Reading α} {b : β} :
    f <$> a = found b ↔ ∃ x, a = found x ∧ f x = b := by
  cases a with
  | found x => simp
  | refused ps => simp [Functor.map, Reading.map]

/-- Two readings come to a value just if both find theirs. -/
lemma seq_eq_found {f : Reading (α → β)} {a : Reading α} {b : β} :
    f <*> a = found b ↔ ∃ g x, f = found g ∧ a = found x ∧ g x = b := by
  cases f with
  | found g =>
    cases a with
    | found x => simp
    | refused ps => simp [Seq.seq, Reading.both]
  | refused ps =>
    cases a with
    | found x => simp [Seq.seq, Reading.both]
    | refused qs => simp [Seq.seq, Reading.both]

/-- What is read is an answer just if it is found. -/
lemma outcome_eq_ok {a : Reading α} {x : α} : a.outcome = .ok x ↔ a = found x := by
  cases a with
  | found y => simp [outcome]
  | refused ps =>
    rw [outcome]
    split
    case isTrue => simp
    case isFalse => simp

end Reading

end Inspection
