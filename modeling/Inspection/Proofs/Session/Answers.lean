import Inspection.Proofs.Session.Calls
import Inspection.Proofs.Store.Reloading

/-!
# Reloading what was answered

Each call that answers with a batch has stored it last (`save_of_perform`). So the batch is loaded
as it was answered wherever batches are kept in memory; where they are documents in a directory, it
is just if all its numbers are finite and none of its counts is too long to be read
(`batch_of_perform`). Numbers that are not finite can be handed in (`Plate.answer_may_not_last`).
-/

namespace Inspection

/-- The batch of an answer, if it is about one. -/
def Reply.batch? : Reply → Option Batch
  | created b | cancelled b => some b
  | progress p => some p.batch
  | completion c => some c.batch
  | missing _ | result _ => none

namespace Session

variable {s s' : Session} {c : Call} {reply : Reply} {b : Batch}

/-- An operation that was settled with an answer has succeeded. -/
lemma settle_eq_ok {α : Type} {answer : α → Reply} {x : Outcome (α × Session)}
    (h : s.settle answer x = (.ok reply, s')) : ∃ a, x = .ok (a, s') ∧ reply = answer a := by
  obtain ⟨fault, failed, -⟩ | ⟨a, done, e⟩ := settle_eq h
  · cases failed
  · exact ⟨a, done, Except.ok.inj e⟩

/-- A call that answers with a batch stores it last, where the session stores its batches. -/
lemma save_of_perform (h : s.perform c = (.ok reply, s')) (about : reply.batch? = some b) :
    ∃ t : Session, t.store = s.store ∧ t.save b = .ok s' := by
  cases c with
  | create name request =>
    rw [perform] at h
    split at h
    case h_1 created =>
      cases h
      cases about
      obtain ⟨_, codes, -, -, -, -, stored⟩ := createBatch_steps created
      exact ⟨{ s with codes := codes }, rfl, stored⟩
    case h_2 => cases h
  | dependencies id item submitted =>
    obtain ⟨_, -, rfl⟩ := settle_eq_ok h
    cases about
  | preview id submission others =>
    obtain ⟨_, -, rfl⟩ := settle_eq_ok h
    cases about
  | save id items =>
    obtain ⟨progress, done, rfl⟩ := settle_eq_ok h
    cases about
    obtain ⟨b, loaded⟩ := batch_of_saveProgress done
    obtain ⟨_, _, _, _, -, -, -, -, -, -, stored⟩ := saveProgress_steps loaded done
    exact ⟨s, rfl, stored⟩
  | submit id items measuredBy =>
    obtain ⟨completion, done, rfl⟩ := settle_eq_ok h
    cases about
    obtain ⟨b, loaded⟩ := batch_of_submitBatch done
    obtain ⟨_, _, _, _, -, -, -, -, -, -, stored⟩ := submitBatch_steps loaded done
    exact ⟨s, rfl, stored⟩
  | cancel id =>
    obtain ⟨b', done, rfl⟩ := settle_eq_ok h
    cases about
    obtain ⟨b, loaded⟩ := batch_of_cancelBatch done
    obtain ⟨-, -, stored⟩ := cancelBatch_steps loaded done
    exact ⟨s, rfl, stored⟩

/-- **What was answered is reloaded.** After a call that answers with a batch, this is loaded as it
was answered from memory, and from a directory just if its numbers are finite and its counts short
enough to be read. -/
theorem batch_of_perform (answered : s.perform c = (.ok reply, s'))
    (about : reply.batch? = some b) :
    s'.batch b.id = .ok b ↔ ∀ root, s.store = .directory root → b.Durable := by
  obtain ⟨t, place, stored⟩ := save_of_perform answered about
  rw [batch_of_save stored, place]

end Session

namespace Plate

open Session

/-- A session that keeps its batches in a directory, after it has drawn some codes. -/
def shelf (drawn : Nat) : Session :=
  { session opened with
    store := .directory ⟨true, ["shelf"]⟩
    codes := ⟨false, 0, fun _ => "ab12cd34", drawn⟩ }

/-- The first batch of plates can be stored. -/
lemma save_shelf (drawn : Nat) : ∃ s', (shelf drawn).save opened = .ok s' := by
  have ensured : (shelf drawn).disk.ensureDirectory ⟨true, ["shelf"]⟩ =
      .ok ⟨⟨true, []⟩, .ofList [("/shelf", .directory)]⟩ := by
    rw [Disk.ensureDirectory, Disk.names_of_plain rfl (by decide) (by decide)]
    rfl
  have located : (⟨⟨true, []⟩, .ofList [("/shelf", .directory)]⟩ : Disk).locate
      ⟨true, ["shelf", "MSR-AB12CD34.json"]⟩ = .ok ["shelf", "MSR-AB12CD34.json"] := by
    rw [Disk.locate, Disk.names_of_plain rfl (by decide) (by decide)]
    rfl
  have path : Store.documentPath ⟨true, ["shelf"]⟩ opened.id =
      ⟨true, ["shelf", "MSR-AB12CD34.json"]⟩ := by decide
  obtain ⟨d, written⟩ : ∃ d, (shelf drawn).disk.replace
      (Store.documentPath ⟨true, ["shelf"]⟩ opened.id) opened.json.document = .ok d := by
    rw [path]
    exact ⟨_, Disk.replace_eq_ok.2 ⟨_, _, ensured, located, by decide, by decide, rfl⟩⟩
  have stored : (shelf drawn).store.save (shelf drawn).disk opened =
      .ok (.directory ⟨true, ["shelf"]⟩, d) := bind_eq_ok.2 ⟨d, written, rfl⟩
  exact ⟨_, save_eq_ok.2 ⟨_, _, stored, rfl⟩⟩

/-- Storing a batch leaves the directory in its place. -/
lemma place_shelf {drawn : Nat} {b : Batch} {s' : Session} (stored : (shelf drawn).save b = .ok s') :
    s'.store = .directory ⟨true, ["shelf"]⟩ := by
  obtain ⟨_, _, -, -, -, -, place, -⟩ := save_directory rfl stored
  exact place

/-- The first batch of plates is created. -/
lemma createBatch_shelf {s' : Session} (stored : (shelf 2).save opened = .ok s') :
    (shelf 0).createBatch (.text "plate") .none = (.ok opened, s') := by
  have found : (shelf 0).registry.productNamed (shelf 0).disk (.text "plate") = .ok product := by
    rfl
  have built : BatchRequest.none.build product (shelf 0).now (shelf 0).codes =
      (.found opened, (shelf 2).codes) := by rfl
  have stored : save { shelf 0 with codes := (shelf 2).codes } opened = .ok s' := stored
  simp only [createBatch, found, built, Reading.outcome, stored]

/-- The answer to the call that creates the first batch of plates. -/
lemma perform_shelf {s' : Session} (stored : (shelf 2).save opened = .ok s') :
    (shelf 0).perform (.create (.text "plate") .none) = (.ok (.created opened), s') := by
  rw [perform, createBatch_shelf stored]

/-- The first batch of plates is created in a directory, and loaded again. -/
theorem created_lasts : ∃ s', (shelf 0).perform (.create (.text "plate") .none) =
    (.ok (.created opened), s') ∧ s'.batch opened.id = .ok opened := by
  obtain ⟨s', stored⟩ := save_shelf 2
  have created := perform_shelf stored
  exact ⟨s', created, (batch_of_perform created rfl).2 fun _ _ => by decide⟩

/-- The first batch of plates with an infinite thickness. -/
def immense : Batch :=
  { opened with
    status := .inProgress
    results := [⟨"thickness", .perSample, some false, .empty, [],
      [⟨⟨opened.sampleCount, some Number.infinity, none, none⟩, some false,
        some Number.infinity, []⟩], none, []⟩] }

/-- An infinite thickness is saved to the first batch of plates. -/
lemma saveProgress_immense {s s' : Session} (loaded : s.batch opened.id = .ok opened)
    (found : s.product opened.product = .ok product) (fallback : s.fallback = none)
    (stored : s.save immense = .ok s') :
    ∃ progress, progress.batch = immense ∧
      s.saveProgress opened.id [document "thickness" [Number.infinity]] = .ok (progress, s') := by
  have read : Submission.parseAll [document "thickness" [Number.infinity]] =
      .ok [submission "thickness" [Number.infinity]] := by rfl
  have context : s.context opened [submission "thickness" [Number.infinity]] =
      (session opened).context opened [submission "thickness" [Number.infinity]] := by
    rw [context, fallback]
    rfl
  have keys : (Table.ofList ([submission "thickness" [Number.infinity]].map
      fun x => (x.item, x))).keys = ["thickness"] := by rfl
  have order : product.evaluationOrder ["thickness"] = .ok ["thickness"] := by
    have references : product.references "thickness" = .ok [] := by rfl
    simp [Product.evaluationOrder, Product.placeItems, Product.placeItem, references]
  obtain ⟨saving, kept, results⟩ : ∃ saving, Saving.evaluateAll product
      (Table.ofList ([submission "thickness" [Number.infinity]].map fun x => (x.item, x)))
      ⟨(session opened).context opened [submission "thickness" [Number.infinity]], .empty, []⟩
      ["thickness"] = .ok saving ∧ saving.results = immense.results := ⟨_, rfl, rfl⟩
  have done : opened.save saving.results
      (some (saving.diagnostics.report opened.id opened.product)) =
      .ok ⟨immense, 1, some (saving.diagnostics.report opened.id opened.product)⟩ := by
    rw [results]
    rfl
  have isOpen : requireOpen opened opened.id .save = .ok () := by rfl
  have points : [submission "thickness" [Number.infinity]].mapM (fun x => pointOf product x.item) =
      .ok [point "thickness" .manual none] := by rfl
  refine ⟨⟨immense, 1, some (saving.diagnostics.report opened.id opened.product)⟩, rfl, ?_⟩
  simp only [saveProgress, read, loaded, isOpen, found, points, context, keys, order, kept, done,
    stored, ok_bind, Outcome.of]
  rfl

/-- An answer may not last: from a directory a batch with an infinite number is not loaded as it was
answered, though its product passed the checks. -/
theorem answer_may_not_last : ¬∀ (p : Product) (s t u : Session) (first next : Call)
    (reply reply' : Reply) (b : Batch), p.check = .ok p →
      s.registry.registered = .ofList [(p.id, p)] → s.disk.entries = .empty →
      s.perform first = (.ok reply, t) → t.perform next = (.ok reply', u) →
      reply'.batch? = some b → u.batch b.id = .ok b := by
  intro lasts
  obtain ⟨t, stored⟩ := save_shelf 2
  have loaded : t.batch opened.id = .ok opened :=
    (batch_of_save stored).2 fun _ _ => by decide
  have found : t.product opened.product = .ok product := by
    rw [Session.product, registry_of_save stored]
    rfl
  obtain ⟨u, stored'⟩ := storable_again stored immense rfl
  obtain ⟨progress, e, saved⟩ :=
    saveProgress_immense loaded found (fallback_of_save stored) stored'
  have performed : t.perform (.save opened.id [document "thickness" [Number.infinity]]) =
      (.ok (.progress progress), u) := by rw [perform, saved, settle]
  -- the batch with the infinite number was the last one that was stored
  have reloaded := lasts product (shelf 0) t u _ _ _ _ immense accepted rfl rfl
    (perform_shelf stored) performed (congrArg some e)
  have place : t.store = .directory ⟨true, ["shelf"]⟩ := by
    obtain ⟨_, _, -, -, -, -, place, -⟩ := save_directory rfl stored
    exact place
  have durable : immense.Durable := (batch_of_save stored').1 reloaded _ place
  exact absurd durable (by decide)

end Plate

end Inspection
