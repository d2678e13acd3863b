import Inspection.Proofs.Batch
import Inspection.Proofs.Table
import Inspection.Session.Submitting

/-!
# Submissions of requests

A request is read submission by submission, and the items of its submissions are distinct
(`parseAll_eq_ok`); so it can be read in any order (`parseAll_perm`) and in parts
(`parseAll_append`). When a batch is submitted, the submission for an item is the one of the request
or else the one that the stored result was handed in with (`find?_addStored`).
-/

namespace Inspection

namespace Submission

/-- A request is read if each submission is, their items are distinct, and none was there before. -/
lemma parseFrom_eq_ok {before : List String} {items : List Json} {xs : List Submission} :
    parseFrom before items = .ok xs ↔
      items.mapM parse = .ok xs ∧ (xs.map item).Nodup ∧ ∀ x ∈ xs, x.item ∉ before := by
  induction items generalizing before xs with
  | nil =>
    rw [parseFrom, List.mapM_nil, Except.ok.injEq, pure_eq_ok]
    constructor
    · rintro rfl
      simp
    · exact And.left
  | cons j rest ih =>
    rw [parseFrom, List.mapM_cons, bind_eq_ok, bind_eq_ok]
    constructor
    · rintro ⟨x, read, h⟩
      split at h
      case isTrue => cases h
      case isFalse new =>
        obtain ⟨others, e, h⟩ := bind_eq_ok.1 h
        cases pure_eq_ok.1 h
        obtain ⟨all, distinct, fresh⟩ := ih.1 e
        refine ⟨⟨x, read, bind_eq_ok.2 ⟨others, all, rfl⟩⟩, ?_, ?_⟩
        · rw [List.map_cons, List.nodup_cons]
          refine ⟨fun mem => ?_, distinct⟩
          obtain ⟨y, hy, name⟩ := List.mem_map.1 mem
          exact fresh y hy (name ▸ List.mem_cons_self)
        · intro y mem
          rcases List.mem_cons.1 mem with rfl | mem
          · exact new
          · exact fun old => fresh y mem (List.mem_cons_of_mem _ old)
    · rintro ⟨⟨x, read, h⟩, distinct, fresh⟩
      obtain ⟨others, all, h⟩ := bind_eq_ok.1 h
      cases pure_eq_ok.1 h
      rw [List.map_cons, List.nodup_cons] at distinct
      refine ⟨x, read, ?_⟩
      rw [if_neg (fresh x List.mem_cons_self)]
      refine bind_eq_ok.2 ⟨others, ih.2 ⟨all, distinct.2, ?_⟩, rfl⟩
      intro y mem old
      rcases List.mem_cons.1 old with name | old
      · exact distinct.1 (name ▸ List.mem_map_of_mem mem)
      · exact fresh y (List.mem_cons_of_mem _ mem) old

/-- A request is read if each submission is and their items are distinct. -/
lemma parseAll_eq_ok {items : List Json} {xs : List Submission} :
    parseAll items = .ok xs ↔ items.mapM parse = .ok xs ∧ (xs.map item).Nodup := by
  rw [parseAll, parseFrom_eq_ok]
  simp

/-- In another order the same submissions are read. -/
lemma parseAll_perm {items items' : List Json} {xs : List Submission} (perm : items.Perm items')
    (h : parseAll items = .ok xs) : ∃ xs', parseAll items' = .ok xs' ∧ xs.Perm xs' := by
  obtain ⟨read, distinct⟩ := parseAll_eq_ok.1 h
  obtain ⟨xs', read', perm'⟩ := mapM_perm perm read
  exact ⟨xs', parseAll_eq_ok.2 ⟨read', (perm'.map _).nodup distinct⟩, perm'⟩

/-- A request is read from its first submission on. -/
lemma parseAll_cons {j : Json} {rest : List Json} {x : Submission} {xs : List Submission}
    (own : parse j = .ok x) (h : parseAll (j :: rest) = .ok xs) :
    ∃ others, xs = x :: others ∧ parseAll rest = .ok others := by
  obtain ⟨read, distinct⟩ := parseAll_eq_ok.1 h
  rw [List.mapM_cons, own, ok_bind, bind_eq_ok] at read
  obtain ⟨others, all, e⟩ := read
  obtain rfl := pure_eq_ok.1 e
  rw [List.map_cons, List.nodup_cons] at distinct
  exact ⟨others, rfl, parseAll_eq_ok.2 ⟨all, distinct.2⟩⟩

/-- A request in two parts is read part by part. -/
lemma parseAll_append {items items' : List Json} {xs : List Submission}
    (h : parseAll (items ++ items') = .ok xs) :
    ∃ a b, parseAll items = .ok a ∧ parseAll items' = .ok b ∧ xs = a ++ b := by
  obtain ⟨read, distinct⟩ := parseAll_eq_ok.1 h
  obtain ⟨a, b, ha, hb, rfl⟩ := mapM_append_eq_ok.1 read
  rw [List.map_append, List.nodup_append] at distinct
  exact ⟨a, b, parseAll_eq_ok.2 ⟨ha, distinct.1⟩, parseAll_eq_ok.2 ⟨hb, distinct.2.1⟩, rfl⟩

/-- Submissions under their items. -/
def table (xs : List Submission) : Table Submission :=
  .ofList (xs.map fun x => (x.item, x))

/-- The submission of an item in a table is the one of its list. -/
lemma find?_table {xs : List Submission} (distinct : (xs.map item).Nodup) {n : String}
    {x : Submission} : (table xs).find? n = some x ↔ x ∈ xs ∧ x.item = n := by
  have h := @Table.find?_ofList_map _ _ item id xs distinct n x
  refine h.trans ?_
  simp

/-- An item has a submission in a table just if it has one in the list. -/
lemma mem_keys_table {xs : List Submission} {n : String} :
    n ∈ (table xs).keys ↔ n ∈ xs.map item := by
  rw [table, Table.mem_keys_ofList, List.map_map]
  rfl

/-- The items of a table of submissions are those of its list. -/
lemma keys_table {xs : List Submission} (distinct : (xs.map item).Nodup) :
    (table xs).keys = xs.map item :=
  @Table.keys_ofList_map _ _ item id xs distinct

/-- In another order submissions are found under the same items. -/
lemma find?_table_perm {xs xs' : List Submission} (distinct : (xs.map item).Nodup)
    (perm : xs.Perm xs') (n : String) : (table xs).find? n = (table xs').find? n := by
  apply Option.ext
  intro x
  have distinct' : (xs'.map item).Nodup := (perm.map _).nodup distinct
  rw [find?_table distinct, find?_table distinct', perm.mem_iff]

end Submission

namespace Session

variable {product : Product} {submissions : Table Submission} {rs : List Result} {n : String}

/-- The submission for an item is the one that is there, or else that of the stored result. -/
lemma find?_addStored : (addStored product submissions rs).find? n =
    (submissions.find? n).or ((rs.find? fun r => r.item = n).map (resubmission product)) := by
  induction rs generalizing submissions with
  | nil => simp [addStored]
  | cons r rest ih =>
    rw [addStored, List.find?_cons]
    by_cases own : r.item = n
    · subst own
      cases there : submissions.find? r.item with
      | some x => simp [Table.contains, there, ih]
      | none => simp [Table.contains, there, ih]
    · split
      case isTrue => simp [ih, own]
      case isFalse => simp [ih, own, Ne.symm own]

/-- The items to be submitted are those of the request and the stored ones. -/
lemma mem_keys_addStored : n ∈ (addStored product submissions rs).keys ↔
    n ∈ submissions.keys ∨ n ∈ rs.map Result.item := by
  rw [← not_iff_not, not_or, ← Table.find?_eq_none, ← Table.find?_eq_none, find?_addStored,
    Option.or_eq_none_iff, Option.map_eq_none_iff, List.find?_eq_none]
  simp

end Session

end Inspection
