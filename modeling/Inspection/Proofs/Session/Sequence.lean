import Inspection.Proofs.Evaluation.Agreement
import Inspection.Proofs.Product.Arrangement
import Inspection.Proofs.Submission

/-!
# Items one after the other

Items are evaluated one after the other, each in sight of the results before it. A way to come to
results is `Local` if it sees no more than the items of a product read. In an arrangement of the
items the results of such a way are just those that `fit`: each is what the way comes to in sight of
all of them (`sequence_eq_ok`). What fits does not depend on the order, so every arrangement of
the same items comes to the same results (`sequence_of_fits`).

The numbers of an item in sight of a request come from one of three places: its result of the
request, its submission, and its stored result (`values_of_mem`, `values_of_notMem`). The first
place that has any numbers counts.
-/

namespace Inspection

namespace Context

/-- The context after some results became visible. -/
def addAll (c : Context) (rs : List Result) : Context :=
  rs.foldl addResult c

variable {c : Context} {rs : List Result} {n : String}

@[simp] lemma addAll_nil : c.addAll [] = c := rfl

@[simp] lemma addAll_cons {r : Result} : c.addAll (r :: rs) = (c.addResult r).addAll rs := rfl

/-- Results change neither the batch nor the submissions that a context shows. -/
lemma addAll_eq : ∃ evaluated, c.addAll rs = { c with evaluated := evaluated } := by
  induction rs generalizing c with
  | nil => exact ⟨c.evaluated, rfl⟩
  | cons r rest ih =>
    obtain ⟨evaluated, e⟩ := @ih (c.addResult r)
    exact ⟨evaluated, e⟩

@[simp] lemma fallback_addAll : (c.addAll rs).fallback = c.fallback := by
  obtain ⟨evaluated, e⟩ := @addAll_eq c rs
  rw [e]

@[simp] lemma submissions_addAll : (c.addAll rs).submissions = c.submissions := by
  obtain ⟨evaluated, e⟩ := @addAll_eq c rs
  rw [e]

@[simp] lemma stored?_addAll : (c.addAll rs).stored? n = c.stored? n := by
  obtain ⟨evaluated, e⟩ := @addAll_eq c rs
  rw [e, stored?, stored?]

/-- An item that none of the results is for has the result that it had. -/
lemma find?_addAll_of_notMem (out : n ∉ rs.map Result.item) :
    (c.addAll rs).evaluated.find? n = c.evaluated.find? n := by
  induction rs generalizing c with
  | nil => rfl
  | cons r rest ih =>
    rw [List.map_cons, List.mem_cons, not_or] at out
    rw [addAll_cons, ih out.2, addResult, Table.find?_insert, if_neg out.1]

/-- Of results for distinct items each is visible. -/
lemma find?_addAll_of_mem (distinct : (rs.map Result.item).Nodup) {r : Result} (mem : r ∈ rs) :
    (c.addAll rs).evaluated.find? r.item = some r := by
  induction rs generalizing c with
  | nil => cases mem
  | cons first rest ih =>
    rw [List.map_cons, List.nodup_cons] at distinct
    rcases List.mem_cons.1 mem with rfl | mem
    · rw [addAll_cons, find?_addAll_of_notMem distinct.1, addResult, Table.find?_insert, if_pos rfl]
    · exact ih distinct.2 mem

/-- An item that none of the results is for has the numbers that it had. -/
lemma values_addAll_of_notMem (out : n ∉ rs.map Result.item) :
    (c.addAll rs).values n = c.values n := by
  rw [values, values, find?_addAll_of_notMem out, submissions_addAll, stored?_addAll]

/-- Results change nothing for what reads none of their items. -/
lemma agree_addAll {items : List String} (unread : ∀ n ∈ items, n ∉ rs.map Result.item) :
    Agree items (c.addAll rs) c :=
  .of_values fallback_addAll fun n mem => values_addAll_of_notMem (unread n mem)

/-- An item with a result has its numbers, or else those that it was handed in or stored with. -/
lemma values_addAll_of_mem (distinct : (rs.map Result.item).Nodup) {r : Result} (mem : r ∈ rs) :
    (c.addAll rs).values r.item = firstData [r.sampleValues,
      ((c.submissions.find? r.item).map rawValues).getD [],
      ((c.stored? r.item).map Result.sampleValues).getD []] := by
  rw [values, find?_addAll_of_mem distinct mem, submissions_addAll, stored?_addAll]
  rfl

/-- In which order results for distinct items became visible does not matter. -/
lemma values_addAll_perm (distinct : (rs.map Result.item).Nodup) {rs' : List Result}
    (perm : rs.Perm rs') : (c.addAll rs).values n = (c.addAll rs').values n := by
  have distinct' : (rs'.map Result.item).Nodup := (perm.map _).nodup distinct
  by_cases mem : n ∈ rs.map Result.item
  · obtain ⟨r, hr, rfl⟩ := List.mem_map.1 mem
    rw [values_addAll_of_mem distinct hr, values_addAll_of_mem distinct' (perm.subset hr)]
  · have out : n ∉ rs'.map Result.item := fun there => mem ((perm.map _).symm.subset there)
    rw [values_addAll_of_notMem mem, values_addAll_of_notMem out]

end Context

/-- A way to come to the result of an item in sight of others. -/
abbrev Judging := String → Context → Outcome Result

/-- A way that is for the item and sees no more than the item reads. -/
structure Judging.Local (f : Judging) (p : Product) : Prop where
  item : ∀ {n c r}, f n c = .ok r → r.item = n
  congr : ∀ {n c d}, Context.Agree (p.reads n) c d → f n c = f n d

/-- The results of items one after the other, each in sight of those before it. -/
def sequence (f : Judging) (c : Context) : List String → Outcome (List Result)
  | [] => .ok []
  | n :: rest => do
    let r ← f n c
    return r :: (← sequence f (c.addResult r) rest)

/-- Results each of which is what a way comes to in sight of them all. -/
def Judging.Fits (f : Judging) (c : Context) (rs : List Result) : Prop :=
  ∀ r ∈ rs, f r.item (c.addAll rs) = .ok r

variable {p : Product} {f : Judging} {c : Context} {items order : List String} {rs : List Result}

/-- How a sequence comes to results: the first in sight of none of the others. -/
lemma sequence_cons_eq_ok {n : String} :
    sequence f c (n :: order) = .ok rs ↔ ∃ r others, rs = r :: others ∧ f n c = .ok r ∧
      sequence f (c.addResult r) order = .ok others := by
  rw [sequence, bind_eq_ok]
  constructor
  · rintro ⟨r, first, e⟩
    obtain ⟨others, rest, e⟩ := bind_eq_ok.1 e
    exact ⟨r, others, (pure_eq_ok.1 e).symm, first, rest⟩
  · rintro ⟨r, others, rfl, first, rest⟩
    exact ⟨r, first, bind_eq_ok.2 ⟨others, rest, rfl⟩⟩

/-- In an arrangement of items a local way comes to the results that fit, and to no others. -/
theorem sequence_eq_ok (sound : p.Sound) (loc : f.Local p) (distinct : order.Nodup)
    (after : order.Pairwise fun a b => b ∉ p.reads a) :
    sequence f c order = .ok rs ↔ rs.map Result.item = order ∧ f.Fits c rs := by
  induction order generalizing c rs with
  | nil =>
    rw [sequence, Except.ok.injEq, List.map_eq_nil_iff, eq_comm]
    constructor
    · rintro rfl
      exact ⟨rfl, by simp [Judging.Fits]⟩
    · exact And.left
  | cons n rest ih =>
    rw [List.nodup_cons] at distinct
    rw [List.pairwise_cons] at after
    rw [sequence_cons_eq_ok]
    -- what the first item reads is not among the results, so they change nothing for it
    have unread : ∀ r others, (r :: others).map Result.item = n :: rest →
        f n (c.addAll (r :: others)) = f n c := by
      intro r others names
      refine loc.congr (Context.agree_addAll fun b read => ?_)
      rw [names]
      exact sound.notMem_of_after after.1 b read
    constructor
    · rintro ⟨r, others, rfl, first, e⟩
      obtain ⟨names, fits⟩ := (ih distinct.2 after.2).1 e
      obtain rfl := loc.item first
      refine ⟨by rw [List.map_cons, names], ?_⟩
      intro r' mem
      rcases List.mem_cons.1 mem with rfl | mem
      · rw [unread _ _ (by rw [List.map_cons, names]), first]
      · exact fits r' mem
    · rintro ⟨names, fits⟩
      cases rs with
      | nil => cases names
      | cons r others =>
        obtain ⟨rfl, names'⟩ := List.cons.inj names
        refine ⟨r, others, rfl, ?_, (ih distinct.2 after.2).2 ⟨names', ?_⟩⟩
        · rw [← unread r others names]
          exact fits r List.mem_cons_self
        · exact fun r' mem => fits r' (List.mem_cons_of_mem _ mem)

/-- Things under names can be put in any order of the names. -/
lemma exists_perm_map_eq {α β : Type} {g : α → β} {l : List α} {names : List β}
    (perm : (l.map g).Perm names) : ∃ l' : List α, l'.Perm l ∧ l'.map g = names := by
  have own : List.Forall₂ (fun a b => g a = b) l (l.map g) := by
    rw [List.forall₂_map_right_iff, List.forall₂_same]
    exact fun _ _ => rfl
  have both : (Relation.Comp (List.Forall₂ fun a b => g a = b) List.Perm) l names :=
    ⟨_, own, perm⟩
  rw [List.forall₂_comp_perm_eq_perm_comp_forall₂] at both
  obtain ⟨l', perm', named⟩ := both
  refine ⟨l', perm'.symm, ?_⟩
  rw [← List.forall₂_eq_eq_eq, List.forall₂_map_left_iff]
  exact named

/-- Results that fit still do in another order. -/
lemma Judging.Fits.perm (loc : f.Local p) (distinct : (rs.map Result.item).Nodup)
    (fits : f.Fits c rs) {rs' : List Result} (perm : rs'.Perm rs) : f.Fits c rs' := by
  intro r mem
  rw [← fits r (perm.subset mem)]
  refine loc.congr (.of_values (by simp) fun b _ => ?_)
  exact (Context.values_addAll_perm distinct perm.symm).symm

/-- In every arrangement of some items a local way comes to the results that fit. -/
theorem sequence_of_fits (sound : p.Sound) (loc : f.Local p) (distinct : items.Nodup)
    (arranged : p.Arrangement items order) (names : (rs.map Result.item).Perm items)
    (fits : f.Fits c rs) : ∃ rs', sequence f c order = .ok rs' ∧ rs'.Perm rs := by
  obtain ⟨rs', perm, names'⟩ := exists_perm_map_eq (names.trans arranged.perm.symm)
  refine ⟨rs', ?_, perm⟩
  rw [sequence_eq_ok sound loc (arranged.perm.symm.nodup distinct) arranged.after]
  exact ⟨names', fits.perm loc (names.symm.nodup distinct) perm⟩

/-! ## What requests see -/

namespace Context

/-- A list with numbers comes first. -/
lemma firstData_of_ne_nil {xs : List Float} {rest : List (List Float)} (some : xs ≠ []) :
    firstData (xs :: rest) = xs := by
  rw [firstData, if_neg (by simpa using some)]

/-- A list without numbers is passed over. -/
@[simp] lemma firstData_nil_cons {rest : List (List Float)} :
    firstData ([] :: rest) = firstData rest := rfl

/-- A list alone comes first. -/
@[simp] lemma firstData_singleton {xs : List Float} : firstData [xs] = xs := by
  by_cases none : xs = []
  · rw [none]
    rfl
  · exact firstData_of_ne_nil none

end Context

/-- The raw numbers that are submitted for an item. -/
def Submission.valuesOf (submissions : List Submission) (n : String) : List Float :=
  (((table submissions).find? n).map Context.rawValues).getD []

/-- The numbers that are stored for an item. -/
def Batch.valuesOf (b : Batch) (n : String) : List Float :=
  ((b.result? n).map Result.sampleValues).getD []

/-- An item that is not submitted has no submitted numbers. -/
lemma Submission.valuesOf_of_notMem {submissions : List Submission} {n : String}
    (out : n ∉ submissions.map item) : valuesOf submissions n = [] := by
  rw [← mem_keys_table, ← Table.find?_eq_none] at out
  rw [valuesOf, out]
  rfl

/-- A submitted item has the raw numbers of its submission. -/
lemma Submission.valuesOf_of_mem {submissions : List Submission}
    (distinct : (submissions.map item).Nodup) {x : Submission} (mem : x ∈ submissions) :
    valuesOf submissions x.item = Context.rawValues x := by
  rw [valuesOf, (find?_table distinct).2 ⟨mem, rfl⟩]
  rfl

/-- An item that is not stored has no stored numbers. -/
lemma Batch.valuesOf_of_notMem {b : Batch} {n : String} (out : n ∉ b.results.map Result.item) :
    b.valuesOf n = [] := by
  rw [valuesOf, result?_eq_none.2 out]
  rfl

/-- A stored item has the numbers of its result. -/
lemma Batch.valuesOf_of_result? {b : Batch} {n : String} {r : Result}
    (found : b.result? n = some r) : b.valuesOf n = r.sampleValues := by
  rw [valuesOf, found]
  rfl

namespace Session

variable {s : Session} {b : Batch} {submissions : List Submission} {rs : List Result}

/-- An item with a result of the request has its numbers, or else submitted or stored ones. -/
lemma values_of_mem (distinct : (rs.map Result.item).Nodup) {r : Result} (mem : r ∈ rs) :
    ((s.context b submissions).addAll rs).values r.item = Context.firstData
      [r.sampleValues, Submission.valuesOf submissions r.item, b.valuesOf r.item] :=
  Context.values_addAll_of_mem distinct mem

/-- An item without a result of the request has submitted or stored numbers. -/
lemma values_of_notMem {n : String} (out : n ∉ rs.map Result.item) :
    ((s.context b submissions).addAll rs).values n = Context.firstData
      [Submission.valuesOf submissions n, b.valuesOf n] :=
  Context.values_addAll_of_notMem out

/-- Results change nothing of what stands for missing data. -/
@[simp] lemma fallback_context :
    ((s.context b submissions).addAll rs).fallback = s.fallback :=
  Context.fallback_addAll

end Session

end Inspection
