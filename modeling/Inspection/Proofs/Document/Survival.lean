import Inspection.Proofs.Document
import Inspection.Proofs.Timestamp

/-!
# What survives storing

Whether a part that was written to a document is read from it again. Texts, truth values and words
are (`gives_text`, `gives_bool`, `gives_keyword`), a count is if it has no more digits than are read
(`gives_count`), and a number just if it is finite (`gives_float`). A list is just if its items are
(`gives_list`), and a record just if its members are (`gives_record`).
-/

namespace Inspection

open Reading Reader

/-- What is read of a stored value. -/
def Json.Gives {α : Type} (v : Json) (r : Reader α) (a : α) : Prop :=
  ∃ j, v.readBack = .ok j ∧ r j = found a

namespace Json

variable {α : Type} {v : Json} {r : Reader α} {a : α} {ms ms' : List (String × Json)}

/-- A value that something is read of comes back. -/
lemma Gives.back (gives : v.Gives r a) : ∃ j, v.readBack = .ok j :=
  gives.imp fun _ h => h.1

/-! ## Single values -/

lemma gives_text (s : String) : (text s).Gives Reader.text s :=
  ⟨text s, rfl, rfl⟩

lemma gives_text? (x : Option String) : (ofText? x).Gives (nullable Reader.text) x := by
  cases x with
  | none => exact ⟨null, rfl, rfl⟩
  | some s => exact ⟨text s, rfl, rfl⟩

lemma gives_bool (b : Bool) : (bool b).Gives boolean b :=
  ⟨bool b, rfl, rfl⟩

lemma gives_bool? (x : Option Bool) : (ofBool? x).Gives (nullable boolean) x := by
  cases x with
  | none => exact ⟨null, rfl, rfl⟩
  | some b => exact ⟨bool b, rfl, rfl⟩

/-- A closed choice is read as itself if its words are told apart. -/
lemma gives_keyword [Keyword α] (apart : keyword (Keyword.json a) = found a) :
    (Keyword.json a).Gives keyword a :=
  ⟨_, rfl, apart⟩

/-- A point in time is read as itself. -/
lemma gives_time (t : Timestamp) : t.json.Gives Timestamp.read t :=
  ⟨_, rfl, t.read_json⟩

/-- A count is read as itself just if it has no more digits than are read. -/
lemma gives_count (c : Count) : (ofCount c).Gives count c ↔
    Decimal.digitCount c.val ≤ Decimal.maxIntegerDigits := by
  have own : (ofCount c).readBack =
      if Decimal.maxIntegerDigits < Decimal.digitCount c.val then
        .error (.digits (Decimal.digitCount c.val))
      else .ok (int c.val) := rfl
  rw [Gives, own]
  split
  case isTrue long =>
    refine iff_of_false ?_ (not_le.2 long)
    rintro ⟨j, back, -⟩
    cases back
  case isFalse short => exact iff_of_true ⟨_, rfl, dif_pos c.property⟩ (not_lt.1 short)

/-- What is read of a number that comes back: itself, if it is finite. -/
lemma number_floatBack {x y : Float} : number (floatBack x) = found y ↔ x.isFinite ∧ x = y := by
  cases finite : x.isFinite with
  | true =>
    rw [floatBack_of_finite finite, number, Reading.found.injEq, eq_self, true_and]
  | false =>
    rw [floatBack_of_not_finite finite]
    exact iff_of_false nofun nofun

/-- A number is read as itself just if it is finite. -/
lemma gives_float (x : Float) : (float x).Gives number x ↔ x.isFinite := by
  constructor
  · rintro ⟨j, back, read⟩
    cases back
    exact (number_floatBack.1 read).1
  · exact fun finite => ⟨_, rfl, number_floatBack.2 ⟨finite, rfl⟩⟩

/-! ## Composed values -/

/-- What may be null is read just if it is where it is not. -/
lemma nullable_iff {j : Json} (some : j ≠ null) :
    nullable r j = found (Option.some a) ↔ r j = found a := by
  rw [nullable, map_eq_found]
  · simp
  · exact some

/-- What may be missing is read just if it is where it is there. -/
lemma gives_option {f : α → Json} (some : ∀ a, (f a).readBack ≠ .ok null) (x : Option α) :
    (ofOption f x).Gives (nullable r) x ↔ ∀ a ∈ x, (f a).Gives r a := by
  cases x with
  | none => exact iff_of_true ⟨null, rfl, rfl⟩ nofun
  | some a =>
    -- null would be read as a missing part
    have there {j : Json} (back : (f a).readBack = .ok j) : j ≠ null := by
      rintro rfl
      exact some a back
    constructor
    · rintro ⟨j, back, read⟩ _ ⟨⟩
      exact ⟨j, back, (nullable_iff (there back)).1 read⟩
    · intro gives
      obtain ⟨j, back, read⟩ := gives a rfl
      exact ⟨j, back, (nullable_iff (there back)).2 read⟩

/-- A number that may be missing is read just if it is finite where it is there. -/
lemma gives_float? (x : Option Float) :
    (ofFloat? x).Gives (nullable number) x ↔ ∀ y ∈ x, y.isFinite := by
  cases x with
  | none => exact iff_of_true ⟨null, rfl, rfl⟩ nofun
  | some x =>
    constructor
    · rintro ⟨j, back, read⟩ _ ⟨⟩
      cases back
      cases finite : x.isFinite with
      | true => rfl
      | false =>
        -- it came back as null, which is read as no number at all
        rw [floatBack_of_not_finite finite] at read
        cases read
    · intro finite
      exact ⟨float x, congrArg _ (floatBack_of_finite (finite x rfl)), rfl⟩

/-- A list is read just if each of its items is. -/
lemma gives_list {f : α → Json} (as : List α) :
    (ofList f as).Gives (Reader.list r) as ↔ ∀ a ∈ as, (f a).Gives r a := by
  constructor
  · rintro ⟨j, back, read⟩
    exact List.forall₂_same.1 (list_back back read)
  · intro each
    obtain ⟨items, back, read⟩ : ∃ items, readBackItems (as.map f) = .ok items ∧
        List.Forall₂ (fun j a => r j = found a) items as := by
      induction as with
      | nil => exact ⟨[], rfl, .nil⟩
      | cons a rest ih =>
        obtain ⟨j, own, read⟩ := each a List.mem_cons_self
        obtain ⟨items, back, further⟩ := ih fun a mem => each a (List.mem_cons_of_mem _ mem)
        refine ⟨j :: items, ?_, .cons read further⟩
        rw [List.map_cons, readBackItems, own, back]
        rfl
    refine ⟨list items, ?_, list_eq_found.2 read⟩
    rw [ofList, readBack, back]
    rfl

/-- Entries of numbers are read just if all of the numbers are finite. -/
lemma membersRead_floats {entries entries' : List (String × Float)} :
    membersRead number (entries.map fun e => (e.1, floatBack e.2)) = found entries' ↔
      (∀ e ∈ entries, e.2.isFinite) ∧ entries = entries' := by
  induction entries generalizing entries' with
  | nil => simp [membersRead]
  | cons e rest ih =>
    rw [List.map_cons, membersRead]
    simp only [seq_eq_found, map_eq_found, under_eq_found, number_floatBack, ih,
      List.forall_mem_cons]
    constructor
    · rintro ⟨_, _, ⟨_, ⟨_, ⟨first, rfl⟩, rfl⟩, rfl⟩, ⟨further, rfl⟩, rfl⟩
      exact ⟨⟨first, further⟩, rfl⟩
    · rintro ⟨⟨first, further⟩, rfl⟩
      exact ⟨_, _, ⟨_, ⟨_, ⟨first, rfl⟩, rfl⟩, rfl⟩, ⟨further, rfl⟩, rfl⟩

/-- Entries of numbers come back. -/
lemma readBackMembers_floats (entries : List (String × Float)) :
    readBackMembers (entries.map fun e => (e.1, float e.2)) =
      .ok (entries.map fun e => (e.1, floatBack e.2)) := by
  induction entries with
  | nil => rfl
  | cons e rest ih =>
    rw [List.map_cons, readBackMembers, ih]
    rfl

/-- What is read of a table of numbers is the table, and all of them are finite. -/
lemma gives_table_iff {t t' : Table Float} :
    (record (t.map float).entries).Gives (table number) t' ↔
      (∀ x ∈ t.values, x.isFinite) ∧ t = t' := by
  have values : (∀ x ∈ t.values, x.isFinite) ↔ ∀ e ∈ t.entries, e.2.isFinite :=
    List.forall_mem_map
  rw [values]
  constructor
  · rintro ⟨j, own, read⟩
    rw [readBack, Table.map, readBackMembers_floats] at own
    cases own
    obtain ⟨entries, members, rfl⟩ := map_eq_found.1 read
    obtain ⟨finite, rfl⟩ := membersRead_floats.1 members
    exact ⟨finite, t.ofList_entries.symm⟩
  · rintro ⟨finite, rfl⟩
    refine ⟨record (t.entries.map fun e => (e.1, floatBack e.2)), ?_, ?_⟩
    · rw [readBack, Table.map, readBackMembers_floats]
      rfl
    · exact map_eq_found.2 ⟨t.entries, membersRead_floats.2 ⟨finite, rfl⟩, t.ofList_entries⟩

/-- A table of numbers is read just if all of them are finite. -/
lemma gives_table (t : Table Float) : (record (t.map float).entries).Gives (table number) t ↔
    ∀ x ∈ t.values, x.isFinite := by
  rw [gives_table_iff, and_iff_left rfl]

/-! ## Records -/

/-- Members come back if each of them does. -/
lemma readBackMembers_of_forall (h : ∀ m ∈ ms, ∃ j, m.2.readBack = .ok j) :
    ∃ ms', readBackMembers ms = .ok ms' := by
  induction ms with
  | nil => exact ⟨[], rfl⟩
  | cons member rest ih =>
    obtain ⟨k, v⟩ := member
    obtain ⟨j, own⟩ := h (k, v) List.mem_cons_self
    obtain ⟨ms', further⟩ := ih fun m mem => h m (List.mem_cons_of_mem _ mem)
    exact ⟨(k, j) :: ms', by rw [readBackMembers, own, further]; rfl⟩

/-- A member that must be there and was written is found just if it is read as this. -/
lemma required_iff (name : String) (back : readBackMembers ms = .ok ms')
    (there : ms.lookup name = some v) : required name r ms' = found a ↔ v.Gives r a := by
  obtain ⟨j, there', own⟩ := lookup_back back there
  rw [required_eq_found]
  constructor
  · rintro ⟨j', same, read⟩
    obtain rfl := Option.some.inj (there'.symm.trans same)
    exact ⟨j, own, read⟩
  · rintro ⟨j', own', read⟩
    obtain rfl := Except.ok.inj (own.symm.trans own')
    exact ⟨j, there', read⟩

/-- A member that may be left out but was written is found just if it is read as this. -/
lemma optional_iff (name : String) (default : α) (back : readBackMembers ms = .ok ms')
    (there : ms.lookup name = some v) :
    optional name r default ms' = found a ↔ v.Gives r a := by
  obtain ⟨j, there', own⟩ := lookup_back back there
  rw [optional_eq_found there']
  constructor
  · exact fun read => ⟨j, own, read⟩
  · rintro ⟨j', own', read⟩
    obtain rfl := Except.ok.inj (own.symm.trans own')
    exact read

/-- A record is read just if its members come back and are read. -/
lemma gives_record {kind : String} {read : List (String × Json) → Reading α} {P : Prop}
    (members : ∀ ms', readBackMembers ms = .ok ms' → (read ms' = found a ↔ P))
    (all : P → ∀ m ∈ ms, ∃ j, m.2.readBack = .ok j) :
    (record ms).Gives (model kind read) a ↔ P := by
  constructor
  · rintro ⟨j, back, own⟩
    obtain ⟨ms', back', rfl⟩ := record_back back
    exact (members ms' back').1 own
  · intro holds
    obtain ⟨ms', back⟩ := readBackMembers_of_forall (all holds)
    refine ⟨record ms', ?_, (members ms' back).2 holds⟩
    rw [readBack, back]
    rfl

end Json

end Inspection
