/-!
# Tables

Values under names, in the order in which the names came first. Writing under a name that is there
already replaces its value and keeps its place.
-/

namespace Inspection

/-- The entries with a value under a name: in the place of the name, or else at the end. -/
def putEntry {α : Type} (key : String) (value : α) : List (String × α) → List (String × α)
  | [] => [(key, value)]
  | entry :: rest =>
    if entry.1 = key then (key, value) :: rest else entry :: putEntry key value rest

/-- The names after a write: as before, or one more at the end. -/
theorem keys_putEntry {α : Type} (key : String) (value : α) (entries : List (String × α)) :
    (putEntry key value entries).map Prod.fst =
      if key ∈ entries.map Prod.fst then entries.map Prod.fst
      else entries.map Prod.fst ++ [key] := by
  induction entries with
  | nil => simp [putEntry]
  | cons entry rest ih =>
    by_cases h : entry.1 = key
    · simp [putEntry, h]
    · have h' : ¬key = entry.1 := fun e => h e.symm
      by_cases m : key ∈ rest.map Prod.fst
      · simp only [putEntry, h, if_false, List.map_cons, ih, m, if_true]
        rw [if_pos (List.mem_cons_of_mem _ m)]
      · have m' : key ∉ entry.1 :: rest.map Prod.fst := by
          simp only [List.mem_cons, not_or]
          exact ⟨h', m⟩
        simp only [putEntry, h, if_false, List.map_cons, ih, m]
        rw [if_neg m']
        rfl

/-- Values under distinct names. -/
structure Table (α : Type) where
  entries : List (String × α)
  distinct : (entries.map Prod.fst).Nodup := by simp

namespace Table

variable {α β : Type}

instance [DecidableEq α] : DecidableEq (Table α) := fun a b =>
  if h : a.entries = b.entries then
    isTrue (by cases a; cases b; simp_all)
  else isFalse fun e => h (e ▸ rfl)

/-- The table without entries. -/
def empty : Table α := ⟨[], by simp⟩

instance : Inhabited (Table α) := ⟨empty⟩

/-- The names in order. -/
def keys (t : Table α) : List String :=
  t.entries.map Prod.fst

/-- The values in order. -/
def values (t : Table α) : List α :=
  t.entries.map Prod.snd

/-- The number of entries. -/
def size (t : Table α) : Nat :=
  t.entries.length

/-- The value under a name. -/
def find? (t : Table α) (key : String) : Option α :=
  t.entries.lookup key

/-- Whether there is a value under the name. -/
def contains (t : Table α) (key : String) : Bool :=
  (t.find? key).isSome

/-- Writes a value under a name. -/
def insert (t : Table α) (key : String) (value : α) : Table α where
  entries := putEntry key value t.entries
  distinct := by
    rw [keys_putEntry]
    split
    · exact t.distinct
    · rename_i h
      exact List.nodup_append.2 ⟨t.distinct, by simp, by
        intro a ha b hb e
        simp only [List.mem_singleton] at hb
        exact h (hb ▸ e ▸ ha)⟩

/-- Removes the value under a name. -/
def erase (t : Table α) (key : String) : Table α where
  entries := t.entries.filter fun entry => entry.1 != key
  distinct := t.distinct.sublist (List.filter_sublist.map Prod.fst)

/-- The table of a list of entries, each written after those before it. -/
def ofList (entries : List (String × α)) : Table α :=
  entries.foldl (fun t entry => t.insert entry.1 entry.2) empty

/-- Applies a function to every value. -/
def map (f : α → β) (t : Table α) : Table β where
  entries := t.entries.map fun entry => (entry.1, f entry.2)
  distinct := by
    have h : (t.entries.map fun entry => (entry.1, f entry.2)).map Prod.fst =
        t.entries.map Prod.fst := by simp
    rw [h]
    exact t.distinct

/-- Looking up after a write. -/
theorem lookup_putEntry (key key' : String) (value : α) (entries : List (String × α)) :
    (putEntry key value entries).lookup key' =
      if key' = key then some value else entries.lookup key' := by
  induction entries with
  | nil =>
    by_cases h : key' = key
    · simp [putEntry, h]
    · have hb : (key' == key) = false := by simp [h]
      simp [putEntry, List.lookup_cons, h, hb]
  | cons entry rest ih =>
    obtain ⟨k, v⟩ := entry
    by_cases h : k = key
    · subst h
      by_cases h' : key' = k
      · simp [putEntry, h']
      · have hb : (key' == k) = false := by simp [h']
        simp [putEntry, List.lookup_cons, h', hb]
    · by_cases h' : key' = k
      · subst h'
        simp [putEntry, h]
      · have hb : (key' == k) = false := by simp [h']
        simp [putEntry, List.lookup_cons, h, hb, ih]

/-- A name that was written holds the value; the others hold what they held. -/
@[simp] theorem find?_insert (t : Table α) (key key' : String) (value : α) :
    (t.insert key value).find? key' = if key' = key then some value else t.find? key' :=
  lookup_putEntry key key' value t.entries

/-- A name written for the first time comes last. -/
theorem keys_insert (t : Table α) (key : String) (value : α) :
    (t.insert key value).keys = if key ∈ t.keys then t.keys else t.keys ++ [key] :=
  keys_putEntry key value t.entries

/-- A name that holds a value is one of the names. -/
theorem mem_keys_of_find? {t : Table α} {key : String} {value : α}
    (h : t.find? key = some value) : key ∈ t.keys := by
  obtain ⟨entries, distinct⟩ := t
  simp only [find?, keys] at h ⊢
  clear distinct
  induction entries with
  | nil => simp at h
  | cons entry rest ih =>
    obtain ⟨k, v⟩ := entry
    by_cases e : key = k
    · simp [e]
    · have hb : (key == k) = false := by simp [e]
      simp only [List.lookup_cons, hb] at h
      simp only [List.map_cons, List.mem_cons]
      exact .inr (ih h)

@[simp] theorem find?_empty (key : String) : (empty : Table α).find? key = none := rfl

end Table

end Inspection
