import Inspection.Proofs.Batch.Writing
import Inspection.Proofs.Disk.Places
import Inspection.Proofs.Store

/-!
# What storing a batch leaves alone

Each name of a batch has a place in the store: the name itself, or the place of its document. A
batch that is stored in a place that can be reached changes no place, and no record of another
(`place?_of_save`, `batch_of_save_other`); what is then loaded from its place is the batch, but for
numbers (`restored_of_save`). Where directories are made first, all records of other places stay
(`batch_of_save_kept`).
-/

namespace Inspection

/-- A batch is read back as itself. -/
lemma Batch.Restored.refl (b : Batch) : b.Restored b where
  id := rfl
  product := rfl
  status := rfl
  results := List.forall₂_same.2 fun _ _ => ⟨rfl, rfl, rfl, rfl⟩
  overall := rfl
  measuredAt := rfl

namespace Session

open Disk

variable {s s' : Session} {b b' : Batch} {id : String} {root : Path}

/-- The place of a batch of a name, if it can be reached. -/
def place? (s : Session) (id : String) : Option String :=
  match s.store with
  | .memory _ => some id
  | .directory root => s.disk.place? (Store.documentPath root id)

/-- Where the batches are in memory, the place of a name is the name. -/
lemma place?_memory {batches : Table Batch} (place : s.store = .memory batches) :
    s.place? id = some id := by
  rw [place?, place]

/-- Where the batches are in a directory, the place of a name is that of its document. -/
lemma place?_directory (place : s.store = .directory root) :
    s.place? id = s.disk.place? (Store.documentPath root id) := by
  rw [place?, place]

/-- How a batch is stored in memory. -/
lemma save_memory_eq_ok {batches : Table Batch} (place : s.store = .memory batches) :
    s.save b = .ok s' ↔ s' = { s with store := .memory (batches.insert b.id b) } := by
  rw [save_eq_ok, place, Store.save]
  constructor
  · rintro ⟨store, disk, stored, rfl⟩
    cases stored
    rfl
  · rintro rfl
    exact ⟨_, _, rfl, rfl⟩

/-- How a batch is stored in a directory: the directories that lead to its document are made, and
the document is written where no directory is. -/
lemma save_directory (place : s.store = .directory root) (h : s.save b = .ok s') :
    ∃ made names, s.disk.ensureDirectory (Store.documentPath root b.id).parent = .ok made ∧
      made.locate (Store.documentPath root b.id) = .ok names ∧
      (Store.documentPath root b.id).names ≠ [] ∧ made.at? names ≠ some .directory ∧
      s'.store = .directory root ∧ s'.disk = made.withText names b.json.document := by
  obtain ⟨store, disk, stored, rfl⟩ := save_eq_ok.1 h
  rw [place, Store.save, bind_eq_ok] at stored
  obtain ⟨disk', written, e⟩ := stored
  obtain ⟨rfl, rfl⟩ := Prod.mk.inj (pure_eq_ok.1 e)
  obtain ⟨made, names, ensured, located, fits, free, rfl⟩ := replace_eq_ok.1 written
  refine ⟨made, names, ensured, located, fun none => ?_, free, rfl, rfl⟩
  rw [Path.name, none] at fits
  simp at fits

/-- Where the document of a batch can be reached, only its text is written. -/
lemma save_directory_there (place : s.store = .directory root) (there : (s.place? b.id).isSome)
    (h : s.save b = .ok s') : ∃ names, s.disk.locate (Store.documentPath root b.id) = .ok names ∧
      s.disk.at? names ≠ some .directory ∧
      s'.store = .directory root ∧ s'.disk = s.disk.withText names b.json.document := by
  obtain ⟨made, names, ensured, located, some, free, place', disk⟩ := save_directory place h
  rw [place?_directory place, Option.isSome_iff_exists] at there
  obtain ⟨own, reached⟩ := there
  obtain ⟨names', located', -⟩ := place?_eq_some.1 reached
  obtain rfl := made_of_locate some located' ensured
  exact ⟨names, located, free, place', disk⟩

/-- Storing a batch leaves the registry. -/
lemma registry_of_save (h : s.save b = .ok s') : s'.registry = s.registry := by
  obtain ⟨store, disk, -, rfl⟩ := save_eq_ok.1 h
  rfl

/-- What is loaded of a directory is what a document that is there says. -/
lemma batch_directory (place : s.store = .directory root) (loaded : s.batch id = .ok b) :
    s.disk.pathExists (Store.documentPath root id) = .ok true ∧ ∃ text j,
      s.disk.read (Store.documentPath root id) = .ok text ∧ Json.read text = .ok j ∧
      Batch.read j = .found b := by
  rw [batch, place, Store.load, bind_eq_ok] at loaded
  obtain ⟨found, h, loaded⟩ := loaded
  cases found with
  | false => cases loaded
  | true =>
    refine ⟨h, ?_⟩
    rw [if_pos rfl, bind_eq_ok] at loaded
    obtain ⟨j, document, loaded⟩ := loaded
    rw [readDocument, bind_eq_ok] at document
    obtain ⟨text, read, document⟩ := document
    exact ⟨text, j, read, Outcome.of_eq_ok.1 document, Reading.outcome_eq_ok.1 loaded⟩

/-- A batch that is loaded has a place that can be reached. -/
lemma place?_isSome_of_batch (loaded : s.batch id = .ok b) : (s.place? id).isSome := by
  cases place : s.store with
  | memory batches => rw [place?_memory place, Option.isSome_some]
  | directory root =>
    obtain ⟨there, -⟩ := batch_directory place loaded
    obtain ⟨names, located, -⟩ := locate_of_pathExists there
    rw [place?_directory place, place?_eq_some.2 ⟨names, located, rfl⟩, Option.isSome_some]

/-- What a path shows is all that is loaded through it. -/
lemma batch_of_shows (place : s.store = .directory root) (place' : s'.store = .directory root)
    (same : s.disk.Shows s'.disk (Store.documentPath root id)) : s'.batch id = s.batch id := by
  rw [batch, batch, place, place', Store.load, Store.load, same.pathExists]
  cases there : s.disk.pathExists (Store.documentPath root id) with
  | error e => rfl
  | ok found =>
    cases found with
    | false => rfl
    | true =>
      simp only [ok_bind, if_pos]
      rw [readDocument, readDocument, same.read there]

/-! ## Storing in a place that can be reached -/

/-- Storing a batch in a place that can be reached leaves all places. -/
lemma place?_of_save (there : (s.place? b.id).isSome) (h : s.save b = .ok s') (id : String) :
    s'.place? id = s.place? id := by
  cases place : s.store with
  | memory batches =>
    obtain rfl := (save_memory_eq_ok place).1 h
    rw [place?_memory place, place?_memory rfl]
  | directory root =>
    obtain ⟨names, -, free, place', disk⟩ := save_directory_there place there h
    rw [place?_directory place, place?_directory place', disk, place?_withText free]

/-- Storing a batch in a place that can be reached leaves the records of all others. -/
lemma batch_of_save_other (there : (s.place? b.id).isSome) (h : s.save b = .ok s') {id : String}
    (other : s.place? id ≠ s.place? b.id) : s'.batch id = s.batch id := by
  cases place : s.store with
  | memory batches =>
    obtain rfl := (save_memory_eq_ok place).1 h
    rw [place?_memory place, place?_memory place, ne_eq, Option.some.injEq] at other
    rw [batch, batch, place, Store.load, Store.load, Table.find?_insert, if_neg other]
  | directory root =>
    obtain ⟨names, located, free, place', disk⟩ := save_directory_there place there h
    refine batch_of_shows place place' ?_
    rw [disk]
    refine shows_withText free ?_
    rw [place?_directory place, place?_directory place] at other
    rw [← place?_eq_some.2 ⟨names, located, rfl⟩]
    exact other

/-- What is loaded of a batch that was stored is the batch, but for numbers. -/
lemma restored_of_save (h : s.save b = .ok s') (own : s'.place? id = s'.place? b.id)
    (loaded : s'.batch id = .ok b') : b.Restored b' := by
  cases place : s.store with
  | memory batches =>
    obtain rfl := (save_memory_eq_ok place).1 h
    rw [place?_memory rfl, place?_memory rfl, Option.some.injEq] at own
    rw [batch, Store.load, Table.find?_insert, if_pos own] at loaded
    obtain rfl := Except.ok.inj loaded
    exact .refl b
  | directory root =>
    obtain ⟨made, names, -, located, -, free, place', disk⟩ := save_directory place h
    rw [place?_directory place', place?_directory place', disk, place?_withText free,
      place?_withText free, place?_eq_some.2 ⟨names, located, rfl⟩] at own
    obtain ⟨-, text, j, read, value, found⟩ := batch_directory place' loaded
    rw [disk] at read
    obtain rfl := text_of_read free own read
    rw [Json.read_document b.distinct_json] at value
    exact Batch.restored_of_document value found

/-- A batch that was stored has a place that can be reached. -/
lemma place?_isSome_of_save (h : s.save b = .ok s') : (s'.place? b.id).isSome := by
  cases place : s.store with
  | memory batches =>
    obtain rfl := (save_memory_eq_ok place).1 h
    rw [place?_memory rfl]
    rfl
  | directory root =>
    obtain ⟨made, names, -, located, -, free, place', disk⟩ := save_directory place h
    rw [place?_directory place', disk, place?_withText free,
      place?_eq_some.2 ⟨names, located, rfl⟩]
    rfl

/-- A path that shows the same leads to the same product. -/
lemma loadDocument_of_shows {r : Registry} {d d' : Disk} {n : String}
    (same : d.Shows d' (r.path n)) : r.loadDocument d' n = r.loadDocument d n := by
  rw [Registry.loadDocument, Registry.loadDocument, same.pathExists]
  cases there : d.pathExists (r.path n) with
  | error e => rfl
  | ok found =>
    cases found with
    | false => rfl
    | true =>
      simp only [ok_bind, if_pos]
      rw [same.read there]

/-- The document of a batch is none of a product: it gives no name. -/
lemma no_product_of_batch {schema : Option Schema} {j : Json} (back : b.json.readBack = .ok j)
    (product : Product) : Product.load schema j ≠ .ok product := by
  obtain ⟨ms, members, rfl⟩ := Json.record_back back
  intro loaded
  rw [Product.load] at loaded
  split at loaded
  case h_1 => cases loaded
  case h_2 =>
    split at loaded
    case h_1 => cases loaded
    case h_2 p found =>
      rw [Product.read, Reader.model] at found
      simp only [Reading.seq_eq_found, Reading.map_eq_found] at found
      obtain ⟨_, _, ⟨_, _, ⟨_, _, ⟨_, _, ⟨_, _, -, name, -⟩, -⟩, -⟩, -⟩, -⟩ := found
      obtain ⟨j, there, -⟩ := Reader.required_eq_found.1 name
      rw [Json.lookup_back_none members (by rfl)] at there
      cases there

/-- A product that is loaded is that of a document that can be read. -/
lemma read_of_loadDocument {r : Registry} {d : Disk} {n : String} {product : Product}
    (loaded : r.loadDocument d n = .ok product) : ∃ text j, d.read (r.path n) = .ok text ∧
      Json.read text = .ok j ∧ Product.load r.schema j = .ok product := by
  obtain ⟨found, -, loaded⟩ := bind_eq_ok.1 loaded
  cases found with
  | false => cases loaded
  | true =>
    rw [if_pos rfl, bind_eq_ok] at loaded
    obtain ⟨text, read, loaded⟩ := loaded
    obtain ⟨j, value, loaded⟩ := bind_eq_ok.1 loaded
    exact ⟨text, j, read, Outcome.of_eq_ok.1 value, loaded⟩

/-- Storing a batch in a place that can be reached puts no product in the place of another. -/
lemma product_of_save (there : (s.place? b.id).isSome) (h : s.save b = .ok s') {n : String}
    {product : Product} (found : s'.product n = .ok product) : s.product n = .ok product := by
  rw [← found, Session.product, Session.product, registry_of_save h]
  cases place : s.store with
  | memory batches =>
    obtain rfl := (save_memory_eq_ok place).1 h
    rfl
  | directory root =>
    obtain ⟨names, located, free, place', disk⟩ := save_directory_there place there h
    rw [Registry.product, Registry.product]
    split
    case h_1 => rfl
    case h_2 none =>
      by_cases own : s.disk.place? (s.registry.path n) = some (placeOf names)
      -- the batch took the place of the product's document, and is no product
      · rw [Session.product, registry_of_save h, Registry.product, none, disk] at found
        obtain ⟨p, loaded, -⟩ := bind_eq_ok.1 found
        obtain ⟨text, j, read, value, loaded⟩ := read_of_loadDocument loaded
        obtain rfl := text_of_read free own read
        rw [Json.read_document b.distinct_json] at value
        exact absurd loaded (no_product_of_batch value p)
      · rw [Registry.load, Registry.load, disk, loadDocument_of_shows (shows_withText free own)]

/-! ## Storing where directories are made -/

/-- Storing a batch leaves the records of all other places, also where directories are made. -/
lemma batch_of_save_kept (h : s.save b = .ok s') (loaded : s.batch id = .ok b')
    (other : s'.place? id ≠ s'.place? b.id) : s'.batch id = .ok b' := by
  cases place : s.store with
  | memory batches =>
    obtain rfl := (save_memory_eq_ok place).1 h
    rw [place?_memory rfl, place?_memory rfl, ne_eq, Option.some.injEq] at other
    rw [← loaded, batch, batch, place, Store.load, Store.load, Table.find?_insert, if_neg other]
  | directory root =>
    obtain ⟨made, names, ensured, located, -, free, place', disk⟩ := save_directory place h
    rw [place?_directory place', place?_directory place', disk, place?_withText free,
      place?_withText free, place?_eq_some.2 ⟨names, located, rfl⟩] at other
    obtain ⟨-, text, j, read, -, -⟩ := batch_directory place loaded
    have same : s.disk.Shows s'.disk (Store.documentPath root id) := by
      rw [disk]
      exact (shows_made ensured read).1.trans (shows_withText free other)
    rw [← loaded]
    exact batch_of_shows place place' same

end Session

end Inspection
