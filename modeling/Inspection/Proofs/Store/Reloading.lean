import Inspection.Proofs.Batch.Durable
import Inspection.Proofs.Store.Frame

/-!
# Loading what was stored

What is loaded of a batch right after it was stored: from memory always the batch, and from a
directory just if it is durable (`batch_of_save`). Wherever it can be loaded, its results are what
the store returns of those that were stored (`returns_of_save`): the same but for numbers
(`Store.Returns.reread`), and from a directory the same just if they are durable
(`Store.Returns.eq_iff`).
-/

namespace Inspection

open Reading Json

namespace Store

/-- Whether batches are documents in a directory. -/
def isDirectory : Store → Bool
  | memory _ => false
  | directory _ => true

/-- What a store returns of a result: in memory the result, in a directory what is read of it. -/
def Returns : Store → Result → Result → Prop
  | memory _, r, r' => r' = r
  | directory _, r, r' => r.json.Gives Result.read r'

variable {store store' : Store} {r r' : Result}

/-- What is returned depends only on the kind of the store. -/
lemma returns_congr (kind : store'.isDirectory = store.isDirectory) :
    store'.Returns = store.Returns := by
  cases store with
  | memory =>
    cases store' with
    | memory => rfl
    | directory => cases kind
  | directory =>
    cases store' with
    | memory => cases kind
    | directory => rfl

namespace Returns

/-- A result is returned as it is just if it is durable, where batches are in a directory. -/
lemma eq_iff (h : store.Returns r r') : r' = r ↔ (store.isDirectory → r.Durable) := by
  cases store with
  | memory => exact iff_of_true h nofun
  | directory =>
    rw [Result.eq_iff_of_gives h]
    exact ⟨fun durable _ => durable, fun durable => durable rfl⟩

/-- What is returned of a result is the result, but for numbers. -/
lemma reread (h : store.Returns r r') : r.Reread r' := by
  cases store with
  | memory =>
    obtain rfl := h
    exact ⟨rfl, rfl, rfl, rfl⟩
  | directory =>
    obtain ⟨j, back, read⟩ := h
    exact Result.reread_of_document back read

end Returns

end Store

namespace Session

variable {s s' : Session} {b b' : Batch}

/-- Storing a batch keeps the kind of the store. -/
lemma isDirectory_of_save (h : s.save b = .ok s') :
    s'.store.isDirectory = s.store.isDirectory := by
  cases place : s.store with
  | memory batches =>
    obtain rfl := (save_memory_eq_ok place).1 h
    rfl
  | directory root =>
    obtain ⟨_, _, -, -, -, -, place', -⟩ := save_directory place h
    rw [place']

/-- What is loaded of a document that was stored is what comes back of it. -/
lemma batch_of_save_directory {root : Path} (place : s.store = .directory root)
    (h : s.save b = .ok s') : s'.batch b.id = .ok b' ↔ b.json.Gives Batch.read b' := by
  obtain ⟨made, names, -, located, -, free, place', disk⟩ := save_directory place h
  obtain ⟨there, read⟩ := @Disk.read_withText _ _ _ b.json.document free located
  rw [← disk] at there read
  -- the document that was written is found and read, so only what comes back of it counts
  rw [batch, place', Store.load, there, ok_bind, if_pos rfl, Disk.readDocument, read, ok_bind,
    Json.read_document b.distinct_json]
  rw [Gives, bind_eq_ok]
  simp only [Outcome.of_eq_ok, Reading.outcome_eq_ok]

/-- A batch that was stored is loaded as it was: from memory always, and from a directory just if it
is durable. -/
theorem batch_of_save (h : s.save b = .ok s') :
    s'.batch b.id = .ok b ↔ ∀ root, s.store = .directory root → b.Durable := by
  cases place : s.store with
  | memory batches => exact iff_of_true (save_memory place h).1 nofun
  | directory root =>
    rw [batch_of_save_directory place h, Batch.gives_json]
    exact ⟨fun durable _ _ => durable, fun durable => durable root rfl⟩

/-- What is loaded of a batch that was stored has its name, and what the store returns of its
results; in a directory it is durable. -/
theorem returns_of_save (h : s.save b = .ok s') (loaded : s'.batch b.id = .ok b') :
    b'.id = b.id ∧ List.Forall₂ s.store.Returns b.results b'.results ∧
      (s.store.isDirectory → b'.Durable) := by
  refine ⟨(restored_of_save h rfl loaded).id, ?_⟩
  cases place : s.store with
  | memory batches =>
    obtain rfl : b = b' := Except.ok.inj ((save_memory place h).1.symm.trans loaded)
    exact ⟨List.forall₂_same.2 fun _ _ => rfl, nofun⟩
  | directory root =>
    have gives := (batch_of_save_directory place h).1 loaded
    exact ⟨(Batch.results_of_gives gives).2, fun _ => Batch.durable_of_gives gives⟩

end Session

end Inspection
