import Inspection.Proofs.Disk
import Inspection.Session.Basic

/-!
# Storing batches

A session that stores a batch stores any other of the same name (`storable_of_save`), also
afterwards (`storable_again`), and leaves what stands for missing data (`fallback_of_save`). Where
batches are kept in memory, all of them are stored, and loaded as they were (`save_memory`).
-/

namespace Inspection.Session

variable {s s' : Session} {b : Batch} {id : String}

/-- Every batch of a name can be stored. -/
def Storable (s : Session) (id : String) : Prop :=
  ∀ b : Batch, b.id = id → ∃ s', s.save b = .ok s'

/-- How a batch is stored: in memory always, in a directory if its document can be written. -/
lemma save_eq_ok : s.save b = .ok s' ↔
    ∃ store disk, s.store.save s.disk b = .ok (store, disk) ∧
      s' = { s with store := store, disk := disk } := by
  rw [save, bind_eq_ok]
  constructor
  · rintro ⟨⟨store, disk⟩, stored, e⟩
    exact ⟨store, disk, stored, (pure_eq_ok.1 e).symm⟩
  · rintro ⟨store, disk, stored, rfl⟩
    exact ⟨(store, disk), stored, rfl⟩

/-- Storing a batch does not change what stands for missing data. -/
lemma fallback_of_save (h : s.save b = .ok s') : s'.fallback = s.fallback := by
  obtain ⟨store, disk, -, rfl⟩ := save_eq_ok.1 h
  rfl

/-- In memory every batch can be stored. -/
lemma storable_memory {batches : Table Batch} (place : s.store = .memory batches) :
    s.Storable id := fun b _ =>
  ⟨_, save_eq_ok.2 ⟨.memory (batches.insert b.id b), s.disk, by rw [place, Store.save], rfl⟩⟩

/-- Where a batch can be stored, so can any other of its name. -/
lemma storable_of_save (h : s.save b = .ok s') : s.Storable b.id := by
  intro b' same
  obtain ⟨store, disk, stored, rfl⟩ := save_eq_ok.1 h
  cases place : s.store with
  | memory batches => exact storable_memory place b' same
  | directory root =>
    rw [place, Store.save, bind_eq_ok] at stored
    obtain ⟨disk', written, -⟩ := stored
    obtain ⟨disk'', written'⟩ := Disk.replace_text written b'.json.document
    refine ⟨_, save_eq_ok.2 ⟨.directory root, disk'', ?_, rfl⟩⟩
    rw [place, Store.save, same, written']
    rfl

/-- Where a batch was stored, any other of its name can be stored after it. -/
lemma storable_again (h : s.save b = .ok s') : s'.Storable b.id := by
  intro b' same
  obtain ⟨store, disk, stored, rfl⟩ := save_eq_ok.1 h
  cases place : s.store with
  | memory batches =>
    rw [place, Store.save, Except.ok.injEq, Prod.mk.injEq] at stored
    obtain ⟨rfl, rfl⟩ := stored
    exact storable_memory rfl b' same
  | directory root =>
    rw [place, Store.save, bind_eq_ok] at stored
    obtain ⟨disk', written, e⟩ := stored
    obtain ⟨rfl, rfl⟩ := Prod.mk.inj (pure_eq_ok.1 e)
    obtain ⟨disk'', written'⟩ := Disk.replace_again written b'.json.document
    refine ⟨_, save_eq_ok.2 ⟨.directory root, disk'', ?_, rfl⟩⟩
    dsimp only
    rw [Store.save, same, written']
    rfl

/-- A batch that was stored in memory is loaded as it was, and the products stay the same. -/
lemma save_memory {batches : Table Batch} (place : s.store = .memory batches)
    (h : s.save b = .ok s') :
    s'.batch b.id = .ok b ∧ ∀ name, s'.product name = s.product name := by
  obtain ⟨store, disk, stored, rfl⟩ := save_eq_ok.1 h
  rw [place, Store.save, Except.ok.injEq, Prod.mk.injEq] at stored
  obtain ⟨rfl, rfl⟩ := stored
  refine ⟨?_, fun name => rfl⟩
  rw [batch, Store.load, Table.find?_insert, if_pos rfl]

end Inspection.Session
