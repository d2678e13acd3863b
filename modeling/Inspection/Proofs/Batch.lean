import Inspection.Batch.Writing
import Inspection.Proofs.Outcome
import Mathlib.Data.List.Nodup
import Mathlib.Data.List.Perm.Basic

/-!
# Results in batches

What a batch holds after results were put into it. A put result is found under its item and nothing
else is lost (`result?_putAll_of_mem`, `result?_putAll_of_notMem`); the items keep their places,
with new ones behind them (`items_putAll`, `items_putAll_eraseDups`). In a batch with one result for
each item the results put are there besides those of other items (`mem_putAll`), in whatever order
they were put (`putAll_perm`). `complete_eq_ok` and `save_eq_ok` tell when a batch can be completed
or saved to.
-/

namespace Inspection

/-- The items of results after one was put: as before, or one more at the end. -/
lemma items_putResult (r : Result) (rs : List Result) :
    (putResult r rs).map Result.item =
      if r.item ∈ rs.map Result.item then rs.map Result.item
      else rs.map Result.item ++ [r.item] := by
  induction rs with
  | nil => simp [putResult]
  | cons other rest ih =>
    by_cases same : other.item = r.item
    · rw [putResult, if_pos same, List.map_cons, List.map_cons, same, if_pos List.mem_cons_self]
    · rw [putResult, if_neg same, List.map_cons, List.map_cons, ih]
      by_cases mem : r.item ∈ rest.map Result.item
      · rw [if_pos mem, if_pos (List.mem_cons_of_mem _ mem)]
      · have out : r.item ∉ other.item :: rest.map Result.item := by
          rw [List.mem_cons, not_or]
          exact ⟨Ne.symm same, mem⟩
        rw [if_neg mem, if_neg out, List.cons_append]

/-- Among results after one was put, its item has it, and other items have what they had. -/
lemma find?_putResult (r : Result) (rs : List Result) (n : String) :
    (putResult r rs).find? (fun x => x.item = n) =
      if r.item = n then some r else rs.find? fun x => x.item = n := by
  induction rs with
  | nil =>
    by_cases own : r.item = n
    · simp [putResult, own]
    · simp [putResult, own]
  | cons other rest ih =>
    by_cases same : other.item = r.item
    · rw [putResult, if_pos same, List.find?_cons, List.find?_cons, same]
      by_cases own : r.item = n
      · simp [own]
      · simp [own]
    · rw [putResult, if_neg same, List.find?_cons, List.find?_cons, ih]
      by_cases own : r.item = n
      · simp [own, own ▸ same]
      · rw [if_neg own, if_neg own]

/-- Of results for distinct items each is found under its item. -/
lemma find?_of_mem {rs : List Result} (distinct : (rs.map Result.item).Nodup) {r : Result}
    (mem : r ∈ rs) : rs.find? (fun x => x.item = r.item) = some r := by
  have some : (rs.find? fun x => x.item = r.item).isSome :=
    List.find?_isSome.2 ⟨r, mem, by simp⟩
  obtain ⟨other, found⟩ := Option.isSome_iff_exists.1 some
  have name : other.item = r.item := by simpa using List.find?_some found
  rw [found, List.inj_on_of_nodup_map distinct (List.mem_of_find?_eq_some found) mem name]

/-- A batch as it is created: nothing was done with it yet. -/
structure Batch.New (b : Batch) : Prop where
  status : b.status = .pending
  results : b.results = []
  overall : b.overall = none
  measuredAt : b.measuredAt = none

namespace Batch

variable {b : Batch} {rs : List Result} {n : String}

@[simp] lemma putAll_nil : b.putAll [] = b := rfl

@[simp] lemma putAll_cons {r : Result} : b.putAll (r :: rs) = (b.put r).putAll rs := rfl

/-- Putting results changes nothing else of the batch. -/
lemma putAll_eq : b.putAll rs = { b with results := (b.putAll rs).results } := by
  induction rs generalizing b with
  | nil => rfl
  | cons r rest ih =>
    rw [putAll_cons, ih]
    rfl

/-- Putting results leaves the name of the batch. -/
@[simp] lemma id_putAll : (b.putAll rs).id = b.id := by
  rw [putAll_eq]

/-- Putting results leaves the product of the batch. -/
@[simp] lemma product_putAll : (b.putAll rs).product = b.product := by
  rw [putAll_eq]

/-- Putting results leaves the time of the batch. -/
@[simp] lemma measuredAt_putAll : (b.putAll rs).measuredAt = b.measuredAt := by
  rw [putAll_eq]

/-- The stored result of an item is one of the results, and for the item. -/
lemma mem_of_result? {r : Result} (h : b.result? n = some r) : r ∈ b.results ∧ r.item = n :=
  ⟨List.mem_of_find?_eq_some h, by simpa using List.find?_some h⟩

/-- An item has no stored result just if it is not among the stored items. -/
lemma result?_eq_none : b.result? n = none ↔ n ∉ b.results.map Result.item := by
  rw [result?, List.find?_eq_none, List.mem_map, not_exists]
  simp

/-- Where items are distinct, each result is the stored one of its item. -/
lemma result?_of_mem (distinct : (b.results.map Result.item).Nodup) {r : Result}
    (mem : r ∈ b.results) : b.result? r.item = some r :=
  find?_of_mem distinct mem

/-- Where items are distinct, batches with the same results hold the same for every item. -/
lemma result?_perm {b' : Batch} (distinct : (b.results.map Result.item).Nodup)
    (perm : b.results.Perm b'.results) : b.result? n = b'.result? n := by
  have distinct' : (b'.results.map Result.item).Nodup := (perm.map _).nodup distinct
  by_cases mem : n ∈ b.results.map Result.item
  · obtain ⟨r, hr, rfl⟩ := List.mem_map.1 mem
    rw [result?_of_mem distinct hr, result?_of_mem distinct' (perm.subset hr)]
  · have out : n ∉ b'.results.map Result.item := fun there => mem ((perm.map _).symm.subset there)
    rw [result?_eq_none.2 mem, result?_eq_none.2 out]

/-- Where the results of two batches correspond and are for the same items, so do the results that
they hold of an item. -/
lemma result?_rel {b' : Batch} {R : Result → Result → Prop}
    (same : ∀ r r', R r r' → r'.item = r.item) (both : List.Forall₂ R b.results b'.results)
    (n : String) : Option.Rel R (b.result? n) (b'.result? n) := by
  rw [result?, result?]
  generalize b.results = rs at both
  generalize b'.results = rs' at both
  induction both with
  | nil => exact .none
  | @cons r r' _ _ own _ ih =>
    rw [List.find?_cons, List.find?_cons, same r r' own]
    by_cases here : r.item = n
    · rw [decide_eq_true here]
      exact .some own
    · rw [decide_eq_false here]
      exact ih

/-- An item without a result among those put has the one that it had. -/
lemma result?_putAll_of_notMem (out : n ∉ rs.map Result.item) :
    (b.putAll rs).result? n = b.result? n := by
  induction rs generalizing b with
  | nil => rfl
  | cons r rest ih =>
    rw [List.map_cons, List.mem_cons, not_or] at out
    rw [putAll_cons, ih out.2, result?, put, find?_putResult, if_neg (Ne.symm out.1), result?]

/-- Of results for distinct items each is found under its item. -/
lemma result?_putAll_of_mem (distinct : (rs.map Result.item).Nodup) {r : Result} (mem : r ∈ rs) :
    (b.putAll rs).result? r.item = some r := by
  induction rs generalizing b with
  | nil => cases mem
  | cons first rest ih =>
    rw [List.map_cons, List.nodup_cons] at distinct
    rcases List.mem_cons.1 mem with rfl | mem
    · rw [putAll_cons, result?_putAll_of_notMem distinct.1, result?, put, find?_putResult,
        if_pos rfl]
    · exact ih distinct.2 mem

/-- The items keep their places, and new ones come behind them. -/
lemma items_putAll :
    ∃ new, (b.putAll rs).results.map Result.item = b.results.map Result.item ++ new := by
  induction rs generalizing b with
  | nil => exact ⟨[], by simp⟩
  | cons r rest ih =>
    obtain ⟨new, e⟩ := @ih (b.put r)
    rw [putAll_cons, e, put, items_putResult]
    split
    case isTrue => exact ⟨new, rfl⟩
    case isFalse => exact ⟨[r.item] ++ new, by rw [List.append_assoc]⟩

/-- Where each name has one result in the order of first being given, it still has after results
were put. -/
lemma items_putAll_eraseDups {names : List String}
    (held : b.results.map Result.item = names.eraseDups) :
    (b.putAll rs).results.map Result.item = (names ++ rs.map Result.item).eraseDups := by
  induction rs generalizing b names with
  | nil => rw [putAll_nil, held, List.map_nil, List.append_nil]
  | cons r rest ih =>
    rw [putAll_cons, List.map_cons, List.append_cons]
    apply ih
    rw [put, items_putResult, held, List.eraseDups_append]
    by_cases mem : r.item ∈ names
    · simp [List.removeAll, mem]
    · simp [List.removeAll, mem, List.eraseDups_cons]

/-- The items are those that were there and those of the results put. -/
lemma mem_items_putAll : n ∈ (b.putAll rs).results.map Result.item ↔
    n ∈ b.results.map Result.item ∨ n ∈ rs.map Result.item := by
  induction rs generalizing b with
  | nil => simp
  | cons r rest ih =>
    rw [putAll_cons, ih, put, items_putResult, List.map_cons, List.mem_cons]
    split
    case isTrue old =>
      constructor
      · rintro (mem | mem)
        · exact .inl mem
        · exact .inr (.inr mem)
      · rintro (mem | rfl | mem)
        · exact .inl mem
        · exact .inl old
        · exact .inr mem
    case isFalse => rw [List.mem_append, List.mem_singleton, or_assoc]

/-- Items that are distinct stay so. -/
lemma distinct_putAll (distinct : (b.results.map Result.item).Nodup) :
    ((b.putAll rs).results.map Result.item).Nodup := by
  induction rs generalizing b with
  | nil => exact distinct
  | cons r rest ih =>
    rw [putAll_cons]
    apply ih
    rw [put, items_putResult]
    split
    case isTrue => exact distinct
    case isFalse new =>
      rw [List.nodup_append]
      refine ⟨distinct, List.nodup_singleton _, ?_⟩
      rintro a ha b hb rfl
      exact new (List.mem_singleton.1 hb ▸ ha)

/-- Where items are distinct, the results are those put and those of other items. -/
lemma mem_putAll (stored : (b.results.map Result.item).Nodup)
    (distinct : (rs.map Result.item).Nodup) {r : Result} : r ∈ (b.putAll rs).results ↔
      r ∈ rs ∨ r ∈ b.results ∧ r.item ∉ rs.map Result.item := by
  have found : ∀ {b : Batch} {n : String}, (b.results.map Result.item).Nodup →
      (r ∈ b.results ∧ r.item = n ↔ b.result? n = some r) := by
    intro b n distinct
    constructor
    · rintro ⟨mem, rfl⟩
      exact result?_of_mem distinct mem
    · exact mem_of_result?
  have own : r ∈ (b.putAll rs).results ↔ (b.putAll rs).result? r.item = some r := by
    rw [← found (distinct_putAll stored), and_iff_left rfl]
  rw [own]
  by_cases mem : r.item ∈ rs.map Result.item
  · obtain ⟨r', hr, name⟩ := List.mem_map.1 mem
    rw [← name, result?_putAll_of_mem distinct hr, Option.some.injEq, name]
    constructor
    · rintro rfl
      exact .inl hr
    · rintro (there | ⟨-, out⟩)
      · exact List.inj_on_of_nodup_map distinct hr there name
      · exact absurd mem out
  · rw [result?_putAll_of_notMem mem, ← found stored, and_iff_left rfl]
    constructor
    · exact fun old => .inr ⟨old, mem⟩
    · rintro (there | ⟨old, -⟩)
      · exact absurd (List.mem_map_of_mem there) mem
      · exact old

/-- In which order results for distinct items are put does not matter but for places. -/
lemma putAll_perm (stored : (b.results.map Result.item).Nodup)
    (distinct : (rs.map Result.item).Nodup) {rs' : List Result} (perm : rs.Perm rs') :
    (b.putAll rs).results.Perm (b.putAll rs').results := by
  have distinct' : (rs'.map Result.item).Nodup := (perm.map _).nodup distinct
  rw [List.perm_ext_iff_of_nodup (distinct_putAll stored).of_map (distinct_putAll stored).of_map]
  intro r
  rw [mem_putAll stored distinct, mem_putAll stored distinct', perm.mem_iff, (perm.map _).mem_iff]

/-- When a batch can be completed, and what it is then. -/
lemma complete_eq_ok {measuredBy : Option String} {measuredAt : Timestamp}
    {completion : Completion} :
    b.complete rs measuredBy measuredAt = .ok completion ↔
      b.status.isOpen ∧ (b.putAll rs).results ≠ [] ∧
      (∀ r ∈ (b.putAll rs).results, r.status.isSome) ∧
      completion = ⟨{ b.putAll rs with
        overall := some ((b.putAll rs).results.all fun r => r.status = some true)
        status := .completed
        measuredBy := measuredBy.filter (· ≠ "") <|> (b.putAll rs).measuredBy
        measuredAt := some measuredAt }, .ofResults (b.putAll rs).results⟩ := by
  have judged : unjudged (b.putAll rs).results = [] ↔
      ∀ r ∈ (b.putAll rs).results, r.status.isSome := by
    rw [unjudged, List.map_eq_nil_iff, List.filter_eq_nil_iff]
    simp [Option.isSome_iff_ne_none]
  rw [complete, requireOpen, ← judged]
  by_cases isOpen : b.status.isOpen
  · by_cases none : (b.putAll rs).results = []
    · simp [isOpen, none]
    · by_cases all : unjudged (b.putAll rs).results = []
      · simpa [isOpen, none, all] using eq_comm
      · simp [isOpen, none, all]
  · simp [isOpen]

/-- When results can be saved to a batch, and what it is then. -/
lemma save_eq_ok {report : Option Report} {progress : Progress} :
    b.save rs report = .ok progress ↔ b.status.isOpen ∧
      progress = ⟨{ b.putAll rs with status := .inProgress, overall := none }, rs.length,
        report⟩ := by
  rw [save, requireOpen]
  by_cases isOpen : b.status.isOpen
  · simp [isOpen, eq_comm]
  · simp [isOpen]

/-- When a batch can be cancelled, and what it is then. -/
lemma cancel_eq_ok {b' : Batch} :
    b.cancel = .ok b' ↔ b.status.isOpen ∧ b' = { b with status := .cancelled } := by
  rw [cancel, requireOpen]
  by_cases isOpen : b.status.isOpen
  · simp [isOpen, pure, Except.pure, bind, Except.bind, eq_comm]
  · simp [isOpen, bind, Except.bind]

/-- A completed batch keeps its name. -/
lemma id_of_complete {measuredBy : Option String} {measuredAt : Timestamp}
    {completion : Completion} (h : b.complete rs measuredBy measuredAt = .ok completion) :
    completion.batch.id = b.id := by
  obtain ⟨-, -, -, rfl⟩ := complete_eq_ok.1 h
  exact id_putAll

/-- A batch that is saved to keeps its name. -/
lemma id_of_save {report : Option Report} {progress : Progress}
    (h : b.save rs report = .ok progress) : progress.batch.id = b.id := by
  obtain ⟨-, rfl⟩ := save_eq_ok.1 h
  exact id_putAll

end Batch

end Inspection
