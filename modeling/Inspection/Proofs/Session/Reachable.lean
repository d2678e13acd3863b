import Inspection.Proofs.Batch
import Inspection.Proofs.Product.Acyclic
import Inspection.Proofs.Store
import Inspection.Proofs.Submission

/-!
# Reachable batches

An operation that succeeds went through all of its steps. `createBatch_steps`, `saveProgress_steps`,
`submitBatch_steps` and `cancelBatch_steps` take it apart into them; everything else about an
operation that succeeds is derived from its steps.

The batches of a product that creating, saving, submitting and cancelling lead to are the reachable
ones. Each operation works on the batch as it is stored; between two of them the session may have
gone on in any way, and the batch may have been read back with numbers missing. A reachable batch
has one result for each stored item (`Reachable.distinct`). A small product, the `Plate`, shows a
batch that is reached by creating and saving (`Plate.reachable_saved`).
-/

namespace Inspection.Session

/-! ## Steps of operations -/

variable {s s' : Session} {b : Batch} {id : String} {items : List Json}

/-- A point is at hand just if the product has it. -/
lemma pointOf_eq_ok {product : Product} {n : String} {point : Point} :
    pointOf product n = .ok point ↔ product.point? n = some point := by
  rw [pointOf]
  cases product.point? n with
  | none => simp [raise]
  | some point => simp

/-- A batch is required to be open. -/
lemma requireOpen_eq_ok {action : WriteAction} :
    requireOpen b id action = .ok () ↔ b.status.isOpen := by
  rw [requireOpen]
  by_cases isOpen : b.status.isOpen
  · simp [isOpen]
  · simp [isOpen, raise]

/-- What is submitted for a batch: the submissions of the request, and those of the stored items. -/
def handedIn (product : Product) (b : Batch) (submissions : List Submission) : Table Submission :=
  addStored product (Submission.table submissions) b.results

/-- The steps of a creation that succeeds. The codes that it uses up are the session's. -/
theorem createBatch_steps {name : Json} {request : BatchRequest}
    (h : s.createBatch name request = (.ok b, s')) :
    ∃ product codes, s.registry.productNamed s.disk name = .ok product ∧ b.product = product.id ∧
      b.id = "MSR-" ++ ((request.takeNumber product s.now s.codes).2.next product.id 8).1 ∧
      b.New ∧ save { s with codes := codes } b = .ok s' := by
  rw [createBatch] at h
  split at h
  case h_1 => cases h
  case h_2 product found =>
    dsimp only at h
    split at h
    case h_1 => cases h
    case h_2 b' built =>
      split at h
      case h_1 => cases h
      case h_2 s'' stored =>
        cases h
        replace built := Reading.outcome_eq_ok.1 built
        rw [BatchRequest.build] at built
        simp only [Reading.seq_eq_found, Reading.map_eq_found] at built
        obtain ⟨_, notes, ⟨_, measuredBy, ⟨_, count, ⟨number, -, rfl⟩, -, rfl⟩, -, rfl⟩, -, rfl⟩ :=
          built
        exact ⟨product, _, found, rfl, rfl, ⟨rfl, rfl, rfl, rfl⟩, stored⟩

/-- A creation that fails uses up codes at most. -/
lemma createBatch_error {name : Json} {request : BatchRequest} {fault : Fault}
    (h : s.createBatch name request = (.error fault, s')) :
    ∃ codes, s' = { s with codes := codes } := by
  rw [createBatch] at h
  split at h
  case h_1 =>
    cases h
    exact ⟨s.codes, rfl⟩
  case h_2 product found =>
    dsimp only at h
    split at h
    case h_1 =>
      cases h
      exact ⟨_, rfl⟩
    case h_2 =>
      split at h
      case h_1 =>
        cases h
        exact ⟨_, rfl⟩
      case h_2 => cases h

/-- A saving that succeeds is of a stored batch. -/
lemma batch_of_saveProgress {outcome : Progress × Session}
    (h : s.saveProgress id items = .ok outcome) : ∃ b, s.batch id = .ok b := by
  obtain ⟨submissions, -, h⟩ := bind_eq_ok.1 h
  obtain ⟨b, loaded, -⟩ := bind_eq_ok.1 h
  exact ⟨b, loaded⟩

/-- A submission that succeeds is of a stored batch. -/
lemma batch_of_submitBatch {measuredBy : Option String} {outcome : Completion × Session}
    (h : s.submitBatch id items measuredBy = .ok outcome) : ∃ b, s.batch id = .ok b := by
  obtain ⟨submissions, -, h⟩ := bind_eq_ok.1 h
  obtain ⟨b, loaded, -⟩ := bind_eq_ok.1 h
  exact ⟨b, loaded⟩

/-- A cancellation that succeeds is of a stored batch. -/
lemma batch_of_cancelBatch {outcome : Batch × Session} (h : s.cancelBatch id = .ok outcome) :
    ∃ b, s.batch id = .ok b := by
  obtain ⟨b, loaded, -⟩ := bind_eq_ok.1 h
  exact ⟨b, loaded⟩

/-- The steps of a saving that succeeds. -/
theorem saveProgress_steps {progress : Progress} (loaded : s.batch id = .ok b)
    (h : s.saveProgress id items = .ok (progress, s')) :
    ∃ submissions product order saving, Submission.parseAll items = .ok submissions ∧
      b.status.isOpen ∧ s.product b.product = .ok product ∧
      product.evaluationOrder (Submission.table submissions).keys = .ok order ∧
      Saving.evaluateAll product (Submission.table submissions)
        ⟨s.context b submissions, .empty, []⟩ order = .ok saving ∧
      b.save saving.results (some (saving.diagnostics.report id b.product)) = .ok progress ∧
      s.save progress.batch = .ok s' := by
  obtain ⟨submissions, read, h⟩ := bind_eq_ok.1 h
  rw [loaded, ok_bind, bind_eq_ok] at h
  obtain ⟨⟨⟩, isOpen, h⟩ := h
  obtain ⟨product, found, h⟩ := bind_eq_ok.1 h
  obtain ⟨points, -, h⟩ := bind_eq_ok.1 h
  obtain ⟨order, arranged, h⟩ := bind_eq_ok.1 h
  obtain ⟨saving, kept, h⟩ := bind_eq_ok.1 h
  obtain ⟨progress', done, h⟩ := bind_eq_ok.1 h
  obtain ⟨s'', stored, h⟩ := bind_eq_ok.1 h
  cases pure_eq_ok.1 h
  exact ⟨submissions, product, order, saving, read, requireOpen_eq_ok.1 isOpen, found,
    Outcome.of_eq_ok.1 arranged, kept, Outcome.of_eq_ok.1 done, stored⟩

/-- The steps of a submission that succeeds. -/
theorem submitBatch_steps {measuredBy : Option String} {completion : Completion}
    (loaded : s.batch id = .ok b)
    (h : s.submitBatch id items measuredBy = .ok (completion, s')) :
    ∃ submissions product order rs, Submission.parseAll items = .ok submissions ∧
      b.status.isOpen ∧ s.product b.product = .ok product ∧
      product.evaluationOrder (handedIn product b submissions).keys = .ok order ∧
      evaluateComplete product (handedIn product b submissions) (s.context b submissions) order =
        .ok rs ∧
      b.complete rs measuredBy s.now = .ok completion ∧ s.save completion.batch = .ok s' := by
  obtain ⟨submissions, read, h⟩ := bind_eq_ok.1 h
  rw [loaded, ok_bind, bind_eq_ok] at h
  obtain ⟨⟨⟩, isOpen, h⟩ := h
  obtain ⟨product, found, h⟩ := bind_eq_ok.1 h
  obtain ⟨points, -, h⟩ := bind_eq_ok.1 h
  obtain ⟨order, arranged, h⟩ := bind_eq_ok.1 h
  obtain ⟨rs, judged, h⟩ := bind_eq_ok.1 h
  obtain ⟨completion', completed, h⟩ := bind_eq_ok.1 h
  obtain ⟨s'', stored, h⟩ := bind_eq_ok.1 h
  cases pure_eq_ok.1 h
  exact ⟨submissions, product, order, rs, read, requireOpen_eq_ok.1 isOpen, found,
    Outcome.of_eq_ok.1 arranged, judged, Outcome.of_eq_ok.1 completed, stored⟩

/-- The steps of a cancellation that succeeds. -/
theorem cancelBatch_steps {b' : Batch} (loaded : s.batch id = .ok b)
    (h : s.cancelBatch id = .ok (b', s')) :
    b.status.isOpen ∧ b' = { b with status := .cancelled } ∧ s.save b' = .ok s' := by
  rw [cancelBatch, loaded, ok_bind, bind_eq_ok] at h
  obtain ⟨b'', cancelled, h⟩ := h
  obtain ⟨s'', stored, h⟩ := bind_eq_ok.1 h
  cases pure_eq_ok.1 h
  obtain ⟨isOpen, e⟩ := Batch.cancel_eq_ok.1 (Outcome.of_eq_ok.1 cancelled)
  exact ⟨isOpen, e, stored⟩

end Inspection.Session

namespace Inspection

/-! ## Batches that are reached -/

/-- A result that was read back. A document says null for a number that is not finite, so numbers
may be missing, but nothing else is. -/
structure Result.Reread (r r' : Result) : Prop where
  item : r'.item = r.item
  strategy : r'.strategy = r.strategy
  status : r'.status = r.status
  samples : r'.samples.map (fun x => x.sample.index) = r.samples.map fun x => x.sample.index

/-- A batch that was read back. -/
structure Batch.Reread (b b' : Batch) : Prop where
  id : b'.id = b.id
  product : b'.product = b.product
  status : b'.status = b.status
  results : List.Forall₂ Result.Reread b.results b'.results

/-- The batches of a product that operations lead to. -/
inductive Batch.Reachable (product : Product) : Batch → Prop where
  | created {s s' : Session} {name : Json} {request : BatchRequest} {b : Batch} :
    s.registry.productNamed s.disk name = .ok product →
    s.createBatch name request = (.ok b, s') →
    Reachable product b
  | saved {s s' : Session} {id : String} {items : List Json} {b : Batch} {progress : Progress} :
    Reachable product b →
    s.batch id = .ok b →
    s.product b.product = .ok product →
    s.saveProgress id items = .ok (progress, s') →
    Reachable product progress.batch
  | submitted {s s' : Session} {id : String} {items : List Json} {measuredBy : Option String}
    {b : Batch} {completion : Completion} :
    Reachable product b →
    s.batch id = .ok b →
    s.product b.product = .ok product →
    s.submitBatch id items measuredBy = .ok (completion, s') →
    Reachable product completion.batch
  | cancelled {s s' : Session} {id : String} {b b' : Batch} :
    Reachable product b →
    s.batch id = .ok b →
    s.cancelBatch id = .ok (b', s') →
    Reachable product b'
  | reread {b b' : Batch} :
    Reachable product b →
    b.Reread b' →
    Reachable product b'

namespace Session

/-- A new batch has no results. -/
lemma results_of_createBatch {s s' : Session} {b : Batch} {name : Json} {request : BatchRequest}
    (h : s.createBatch name request = (.ok b, s')) : b.results = [] := by
  obtain ⟨-, -, -, -, -, new, -⟩ := createBatch_steps h
  exact new.results

end Session

/-- A reachable batch has one result for each stored item. -/
theorem Batch.Reachable.distinct {product : Product} {b : Batch} (reachable : b.Reachable product) :
    (b.results.map Result.item).Nodup := by
  induction reachable with
  | created _ h => simp [Session.results_of_createBatch h]
  | saved _ loaded _ h ih =>
    obtain ⟨_, _, _, saving, -, -, -, -, -, kept, -⟩ := Session.saveProgress_steps loaded h
    obtain ⟨-, rfl⟩ := Batch.save_eq_ok.1 kept
    exact Batch.distinct_putAll ih
  | submitted _ loaded _ h ih =>
    obtain ⟨_, _, _, rs, -, -, -, -, -, completed, -⟩ := Session.submitBatch_steps loaded h
    obtain ⟨-, -, -, rfl⟩ := Batch.complete_eq_ok.1 completed
    exact Batch.distinct_putAll ih
  | cancelled _ loaded h ih =>
    obtain ⟨-, rfl, -⟩ := Session.cancelBatch_steps loaded h
    exact ih
  | @reread b b' _ back ih =>
    rwa [map_of_forall₂ back.results fun _ _ r => r.item]

namespace Plate

/-- A point at which one number is taken down, which is good from zero up. -/
def point (name : String) (source : Source) (origin : Option String) : Point where
  name := name
  setup := ⟨none, .quantitative, .single, source, origin, ⟨1, by decide⟩⟩
  declarations := []
  sampleFormulas := []
  strategy := .perSample
  setting := ⟨some ⟨true, none⟩, none, none⟩
  rule := some ⟨.min, 0.0, "mm", none, none⟩

/-- A plate: its thickness is measured and copied, and the copy is checked. -/
def product : Product where
  id := "plate"
  name := "Plate"
  category := none
  description := none
  points := [point "thickness" .manual none, point "copy" .derived (some "thickness"),
    point "check" .derived (some "copy")]
  groups := []

/-- No circle is found among the items of a plate. -/
lemma cycle?_product : product.readingGraph.cycle? = none := by
  have keys : product.readingGraph.keys = ["thickness", "copy", "check"] := by rfl
  have thickness : product.readingGraph.find? "thickness" = some [] := by rfl
  have copy : product.readingGraph.find? "copy" = some ["thickness"] := by rfl
  have check : product.readingGraph.find? "check" = some ["copy"] := by rfl
  simp [Graph.cycle?, Graph.visitAll, Graph.visit_eq, keys, thickness, copy, check, Except.map]

/-- A plate is accepted. -/
lemma accepted : product.check = .ok product := by
  have fine : product.issues = [] := by
    simp only [Product.issues, cycle?_product]
    rfl
  rw [Product.check, fine]
  rfl

/-- A thickness is evaluated before its copy. -/
lemma evaluationOrder_product :
    product.evaluationOrder ["thickness", "copy"] = .ok ["thickness", "copy"] := by
  have thickness : product.references "thickness" = .ok [] := by rfl
  have copy : product.references "copy" = .ok ["thickness"] := by rfl
  simp [Product.evaluationOrder, Product.placeItems, Product.placeItem, thickness, copy]

/-- A new batch of plates. -/
def opened : Batch where
  id := "MSR-AB12CD34"
  product := "plate"
  number := "BATCH-20250102-AB12CD"
  sampleCount := ⟨1, by decide⟩
  status := .pending
  overall := none
  results := []
  measuredBy := none
  measuredAt := none
  notes := none
  createdAt := ⟨2025, 1, 2, 3, 4, 5, by decide⟩

/-- A session that keeps a batch of plates in memory. -/
def session (b : Batch) : Session where
  disk := ⟨⟨true, []⟩, .empty⟩
  registry := ⟨⟨true, []⟩, none, .ofList [("plate", product)]⟩
  store := .memory (.ofList [(b.id, b)])
  codes := ⟨false, 0, fun _ => "ab12cd34", 2⟩
  now := ⟨2025, 1, 2, 3, 4, 5, by decide⟩
  fallback := none

/-- The session has the batch. -/
lemma batch_session (b : Batch) : (session b).batch b.id = .ok b := by
  simp [Session.batch, session, Store.load, Table.ofList]

/-- The session has the product. -/
lemma product_session (b : Batch) : (session b).product "plate" = .ok product := rfl

/-- The session stores every batch. -/
lemma storable_session (b : Batch) (id : String) : (session b).Storable id :=
  Session.storable_memory rfl

/-- A document that hands in numbers for an item. -/
def document (item : String) (numbers : List Float) : Json :=
  .record [("measurement_item_name_id", .text item),
    ("samples", .list (numbers.map fun x =>
      .record [("sample_index", .int 1), ("single_value", .float x)]))]

/-- What is handed in by a document. -/
def submission (item : String) (numbers : List Float) : Submission :=
  ⟨item, .empty, numbers.map fun x => ⟨⟨1, by decide⟩, some x, none, none⟩⟩

/-- The result of an item with a good number. -/
def good (item : String) (x : Float) : Result :=
  ⟨item, .perSample, some true, .empty, [],
    [⟨⟨⟨1, by decide⟩, some x, none, none⟩, some true, some x, []⟩], none, []⟩

/-- A batch of plates to which a thickness and its copy were saved. -/
def saved : Batch :=
  { opened with status := .inProgress, results := [good "thickness" 1.0, good "copy" 1.0] }

/-- A session before it has any batch. -/
def unopened : Session :=
  { session opened with store := .empty, codes := ⟨false, 0, fun _ => "ab12cd34", 0⟩ }

/-- A first batch of plates is created. -/
lemma createBatch_opened :
    unopened.createBatch (.text "plate") .none = (.ok opened, session opened) := by
  rfl

/-- A new batch of plates is reachable. -/
lemma reachable_opened : opened.Reachable product :=
  .created (by rfl) createBatch_opened

/-- A thickness and its copy can be saved, so the batch with both is reachable. -/
lemma reachable_saved : saved.Reachable product := by
  let items : List Json := [document "thickness" [1.0], document "copy" []]
  let submissions : List Submission := [submission "thickness" [1.0], submission "copy" []]
  have read : Submission.parseAll items = .ok submissions := by rfl
  have loaded := batch_session opened
  have found : (session opened).product opened.product = .ok product := product_session opened
  have keys : (Table.ofList (submissions.map fun x => (x.item, x))).keys =
      ["thickness", "copy"] := by rfl
  have done : ∃ report, (session opened).saveProgress opened.id items =
      .ok (⟨saved, 2, some report⟩, session saved) := by
    simp only [Session.saveProgress, read, loaded, found, keys, evaluationOrder_product, ok_bind]
    exact ⟨_, rfl⟩
  obtain ⟨report, done⟩ := done
  exact .saved reachable_opened loaded found done

end Plate

end Inspection
