import Inspection.Table
import Mathlib.Data.List.Nodup
import Mathlib.Data.List.Perm.Basic
import Mathlib.Tactic.Lemma

/-!
# Tables of lists

What a table holds that was written entry by entry. A table of entries under distinct names has just
these entries, so looking up a name in it finds the entry of that name; and however often names
repeat, the names of the table are those of the entries.
-/

namespace Inspection

variable {α β : Type}

/-- A name that is not there yet is written at the end. -/
lemma putEntry_of_new {key : String} {value : α} {entries : List (String × α)}
    (new : key ∉ entries.map Prod.fst) :
    putEntry key value entries = entries ++ [(key, value)] := by
  induction entries with
  | nil => rfl
  | cons entry rest ih =>
    simp only [List.map_cons, List.mem_cons, not_or] at new
    rw [putEntry, if_neg (Ne.symm new.1), ih new.2, List.cons_append]

namespace Table

/-- A name has a value just if it is among the names. -/
lemma mem_keys {t : Table α} {key : String} : key ∈ t.keys ↔ ∃ value, t.find? key = some value := by
  constructor
  · intro mem
    obtain ⟨entry, h, rfl⟩ := List.mem_map.1 mem
    have found : (t.entries.lookup entry.1).isSome := by
      rw [List.lookup_isSome_iff]
      exact ⟨entry, h, by simp⟩
    exact Option.isSome_iff_exists.1 found
  · rintro ⟨value, h⟩
    exact mem_keys_of_find? h

/-- A name without a value is not among the names. -/
lemma find?_eq_none {t : Table α} {key : String} : t.find? key = none ↔ key ∉ t.keys := by
  rw [mem_keys, Option.eq_none_iff_forall_ne_some, not_exists]

/-- The value under a name is the one that an entry gives it. -/
lemma find?_eq_some {t : Table α} {key : String} {value : α} :
    t.find? key = some value ↔ (key, value) ∈ t.entries := by
  obtain ⟨entries, distinct⟩ := t
  simp only [find?]
  induction entries with
  | nil => simp
  | cons entry rest ih =>
    obtain ⟨k, v⟩ := entry
    simp only [List.map_cons, List.nodup_cons] at distinct
    by_cases e : key = k
    · subst e
      have new : (key, value) ∉ rest := fun mem => distinct.1 (List.mem_map_of_mem mem)
      simp [new, eq_comm]
    · have hb : (key == k) = false := by simp [e]
      simp [List.lookup_cons, hb, e, ih distinct.2]

/-- A value stands under some name. -/
lemma mem_values {t : Table α} {value : α} : value ∈ t.values ↔ ∃ key, t.find? key = some value := by
  simp [values, find?_eq_some]

/-- The values after a write are the one written and some of those before. -/
lemma mem_values_insert {t : Table α} {key : String} {value other : α}
    (h : other ∈ (t.insert key value).values) : other = value ∨ other ∈ t.values := by
  obtain ⟨key', found⟩ := mem_values.1 h
  rw [find?_insert] at found
  split at found
  case isTrue => exact .inl (Option.some.inj found).symm
  case isFalse => exact .inr (mem_values.2 ⟨key', found⟩)

/-- The names are distinct. -/
lemma keys_nodup (t : Table α) : t.keys.Nodup := t.distinct

/-- Tables in which every name has the same value have the same names, in some order. -/
lemma keys_perm {s t : Table α} (h : ∀ key, s.find? key = t.find? key) : s.keys.Perm t.keys := by
  rw [List.perm_ext_iff_of_nodup s.keys_nodup t.keys_nodup]
  intro key
  rw [mem_keys, mem_keys, h]

/-- Tables in which every name has the same value have the same entries, in some order. -/
lemma entries_perm {s t : Table α} (h : ∀ key, s.find? key = t.find? key) :
    s.entries.Perm t.entries := by
  rw [List.perm_ext_iff_of_nodup s.distinct.of_map t.distinct.of_map]
  rintro ⟨key, value⟩
  rw [← find?_eq_some, ← find?_eq_some, h]

/-- Entries written into a table under distinct new names come after its own. -/
lemma entries_foldl_insert {entries : List (String × α)} {t : Table α}
    (distinct : (t.entries ++ entries).map Prod.fst |>.Nodup) :
    (entries.foldl (fun t entry => t.insert entry.1 entry.2) t).entries = t.entries ++ entries := by
  induction entries generalizing t with
  | nil => simp
  | cons entry rest ih =>
    have new : entry.1 ∉ t.entries.map Prod.fst := by
      intro mem
      rw [List.map_append] at distinct
      exact (List.disjoint_of_nodup_append distinct) mem (by simp)
    have put : (t.insert entry.1 entry.2).entries = t.entries ++ [entry] := putEntry_of_new new
    have h := @ih (t.insert entry.1 entry.2) (by rw [put]; simpa using distinct)
    rw [List.foldl_cons, h, put]
    simp

/-- A table of entries under distinct names has just these. -/
lemma entries_ofList {entries : List (String × α)} (distinct : (entries.map Prod.fst).Nodup) :
    (ofList entries).entries = entries := by
  have h := @entries_foldl_insert _ entries empty (by simpa [empty] using distinct)
  simpa [ofList, empty] using h

/-- A table is that of its entries. -/
lemma ofList_entries (t : Table α) : ofList t.entries = t := by
  have same := entries_ofList t.distinct
  cases h : ofList t.entries with
  | mk entries distinct =>
    rw [h] at same
    cases t
    cases same
    rfl

/-- Names written into a table are there, besides its own. -/
lemma mem_keys_foldl_insert {entries : List (String × α)} {t : Table α} {key : String} :
    key ∈ (entries.foldl (fun t entry => t.insert entry.1 entry.2) t).keys ↔
      key ∈ t.keys ∨ key ∈ entries.map Prod.fst := by
  induction entries generalizing t with
  | nil => simp
  | cons entry rest ih =>
    rw [List.foldl_cons, ih, keys_insert]
    by_cases h : entry.1 ∈ t.keys
    · rw [if_pos h, List.map_cons, List.mem_cons]
      constructor
      · rintro (mem | mem)
        · exact .inl mem
        · exact .inr (.inr mem)
      · rintro (mem | rfl | mem)
        · exact .inl mem
        · exact .inl h
        · exact .inr mem
    · rw [if_neg h, List.mem_append, List.mem_singleton, List.map_cons, List.mem_cons, or_assoc]

/-- The names of a table of entries are theirs. -/
lemma mem_keys_ofList {entries : List (String × α)} {key : String} :
    key ∈ (ofList entries).keys ↔ key ∈ entries.map Prod.fst := by
  rw [ofList, mem_keys_foldl_insert]
  simp [empty, keys]

/-- A table of things under names of their own finds each under its name. -/
lemma find?_ofList_map {name : β → String} {value : β → α} {l : List β}
    (distinct : (l.map name).Nodup) {key : String} {a : α} :
    (ofList (l.map fun x => (name x, value x))).find? key = some a ↔
      ∃ x ∈ l, name x = key ∧ value x = a := by
  have h : ((l.map fun x => (name x, value x)).map Prod.fst).Nodup := by
    rw [List.map_map]
    exact distinct
  rw [find?_eq_some, entries_ofList h, List.mem_map]
  constructor
  · rintro ⟨x, mem, e⟩
    exact ⟨x, mem, congrArg Prod.fst e, congrArg Prod.snd e⟩
  · rintro ⟨x, mem, rfl, rfl⟩
    exact ⟨x, mem, rfl⟩

/-- The names of a table of things under distinct names of their own, in order. -/
lemma keys_ofList_map {name : β → String} {value : β → α} {l : List β}
    (distinct : (l.map name).Nodup) :
    (ofList (l.map fun x => (name x, value x))).keys = l.map name := by
  have h : ((l.map fun x => (name x, value x)).map Prod.fst).Nodup := by
    rw [List.map_map]
    exact distinct
  rw [keys, entries_ofList h, List.map_map]
  rfl

end Table

end Inspection
