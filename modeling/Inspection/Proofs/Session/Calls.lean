import Inspection.Proofs.Batch.Writing
import Inspection.Proofs.Session.Saving
import Inspection.Proofs.Store.Frame
import Inspection.Session.Preview

/-!
# Calls

All that can be asked of a session, as one step: an answer and the session after it. What a call
did is told by `perform_cases`: it wrote nothing, it created a batch, or it stored a batch anew with
what was written to it. From this follows what a call leaves alone (`perform_framed`).
-/

namespace Inspection

/-- What can be asked of a session. -/
inductive Call
  | create (product : Json) (request : BatchRequest)
  | dependencies (id : String) (item : Json) (submitted : List Json)
  | preview (id : String) (submission : Json) (others : List Json)
  | save (id : String) (items : List Json)
  | submit (id : String) (items : List Json) (measuredBy : Option String)
  | cancel (id : String)

/-- What a session answers. -/
inductive Reply
  | created (b : Batch)
  | missing (items : List String)
  | result (r : Result)
  | progress (p : Progress)
  | completion (c : Completion)
  | cancelled (b : Batch)

namespace Call

/-- The name of the batch that a call may write to. -/
def target? : Call → Option String
  | create .. | dependencies .. | preview .. => none
  | save id _ | submit id _ _ | cancel id => some id

/-- Whether a call may write anything. -/
def writes : Call → Bool
  | dependencies .. | preview .. => false
  | create .. | save .. | submit .. | cancel .. => true

end Call

namespace Session

/-- The answer of an operation and the session after it; one that fails leaves the session. -/
def settle {α : Type} (s : Session) (reply : α → Reply) :
    Outcome (α × Session) → Outcome Reply × Session
  | .ok (a, s') => (.ok (reply a), s')
  | .error fault => (.error fault, s)

/-- The answer to a call, and the session after it. -/
def perform (s : Session) : Call → Outcome Reply × Session
  | .create product request =>
    match s.createBatch product request with
    | (.ok b, s') => (.ok (.created b), s')
    | (.error fault, s') => (.error fault, s')
  | .dependencies id item submitted =>
    s.settle .missing ((s.missingDependencies id item submitted).map (·, s))
  | .preview id submission others =>
    s.settle .result ((s.evaluateItem id submission others).map (·, s))
  | .save id items => s.settle .progress (s.saveProgress id items)
  | .submit id items measuredBy => s.settle .completion (s.submitBatch id items measuredBy)
  | .cancel id => s.settle .cancelled (s.cancelBatch id)

/-- Each batch is stored under its own name. -/
def KeepsOwn (s : Session) : Prop :=
  ∀ id b, s.batch id = .ok b → s.place? b.id = s.place? id

variable {s s' : Session} {c : Call} {outcome : Outcome Reply}

/-- In memory each batch is stored under its own name if it is under its own key. -/
lemma keepsOwn_memory {batches : Table Batch} (place : s.store = .memory batches)
    (own : ∀ id b, batches.find? id = some b → b.id = id) : s.KeepsOwn := by
  intro id b loaded
  rw [place?_memory place, place?_memory place]
  rw [Session.batch, place, Store.load] at loaded
  split at loaded
  case h_1 found =>
    obtain rfl := Except.ok.inj loaded
    rw [own id _ found]
  case h_2 => cases loaded

/-- What an operation did that was settled. -/
lemma settle_eq {α : Type} {reply : α → Reply} {x : Outcome (α × Session)}
    (h : s.settle reply x = (outcome, s')) :
    (∃ fault, outcome = .error fault ∧ s' = s) ∨
      ∃ a, x = .ok (a, s') ∧ outcome = .ok (reply a) := by
  cases x with
  | error fault =>
    cases h
    exact .inl ⟨fault, rfl, rfl⟩
  | ok y =>
    cases h
    exact .inr ⟨y.1, rfl, rfl⟩

/-- An operation that only answers leaves the session. -/
lemma settle_answer {α : Type} {reply : α → Reply} {x : Outcome α}
    (h : s.settle reply (x.map (·, s)) = (outcome, s')) : s' = s := by
  cases x with
  | error fault =>
    cases h
    rfl
  | ok a =>
    cases h
    rfl

/-- Whether a product of the registry has a point of a name. -/
def HasPoint (s : Session) (product n : String) : Prop :=
  ∃ p, s.product product = .ok p ∧ (p.point? n).isSome

/-- A batch that a call stored anew, with what it wrote to it. -/
def Restores (s s' : Session) (id : String) : Prop :=
  ∃ b b', s.batch id = .ok b ∧ b.Written (s.HasPoint b.product) b' ∧ s.save b' = .ok s'

/-- All results that are kept are for points of the product. -/
lemma point_of_evaluateAll {p : Product} {submissions : Table Submission} {order : List String}
    {saving kept : Saving} (h : saving.evaluateAll p submissions order = .ok kept)
    (fine : ∀ r ∈ saving.results, (p.point? r.item).isSome) :
    ∀ r ∈ kept.results, (p.point? r.item).isSome := by
  induction order generalizing saving with
  | nil =>
    obtain rfl := Except.ok.inj h
    exact fine
  | cons n rest ih =>
    rw [Saving.evaluateAll, bind_eq_ok] at h
    obtain ⟨point, there, h⟩ := h
    replace there := pointOf_eq_ok.1 there
    split at h
    case h_1 => exact ih h fine
    case h_2 x submitted =>
      obtain ⟨next, step, h⟩ := bind_eq_ok.1 h
      rw [Saving.evaluate_eq, map_eq_ok] at step
      obtain ⟨r, kept, rfl⟩ := step
      refine ih h fun r' mem => ?_
      rcases List.mem_append.1 mem with old | new
      · exact fine r' old
      · obtain rfl := List.mem_singleton.1 new
        rw [Point.item_of_keep kept, (Product.point?_eq_some there).2, there]
        rfl

/-- All results of complete evaluations are for points of the product. -/
lemma point_of_evaluateComplete {p : Product} {submissions : Table Submission}
    {order : List String} {c : Context} {rs : List Result}
    (h : evaluateComplete p submissions c order = .ok rs) :
    ∀ r ∈ rs, (p.point? r.item).isSome := by
  induction order generalizing c rs with
  | nil =>
    obtain rfl := Except.ok.inj h
    simp
  | cons n rest ih =>
    rw [evaluateComplete, bind_eq_ok] at h
    obtain ⟨point, there, h⟩ := h
    replace there := pointOf_eq_ok.1 there
    split at h
    case h_1 => exact ih h
    case h_2 x submitted =>
      obtain ⟨r, judged, h⟩ := bind_eq_ok.1 h
      split at h
      case isTrue => cases h
      case isFalse =>
        obtain ⟨others, rest_judged, e⟩ := bind_eq_ok.1 h
        obtain rfl := pure_eq_ok.1 e
        intro r' mem
        rcases List.mem_cons.1 mem with rfl | mem
        · rw [Product.item_of_evaluate there judged, there]
          rfl
        · exact ih rest_judged r' mem

/-- What can have come of a call: nothing was written, a batch was created, or a batch was stored
anew. -/
theorem perform_cases (h : s.perform c = (outcome, s')) :
    ((∃ fault, outcome = .error fault) ∨ c.writes = false) ∧
        (∃ codes, s' = { s with codes := codes }) ∨
      (∃ name request b, c = .create name request ∧ s.createBatch name request = (.ok b, s') ∧
        outcome = .ok (.created b)) ∨
      ∃ id, c.target? = some id ∧ (∃ reply, outcome = .ok reply) ∧ s.Restores s' id := by
  have unchanged : ∃ codes, s = { s with codes := codes } := ⟨s.codes, rfl⟩
  cases c with
  | create name request =>
    rw [perform] at h
    split at h
    case h_1 b s'' created =>
      cases h
      exact .inr (.inl ⟨name, request, b, rfl, created, rfl⟩)
    case h_2 fault s'' failed =>
      cases h
      exact .inl ⟨.inl ⟨fault, rfl⟩, createBatch_error failed⟩
  | dependencies id item submitted =>
    obtain rfl := settle_answer h
    exact .inl ⟨.inr rfl, unchanged⟩
  | preview id submission others =>
    obtain rfl := settle_answer h
    exact .inl ⟨.inr rfl, unchanged⟩
  | save id items =>
    rcases settle_eq h with ⟨fault, rfl, rfl⟩ | ⟨progress, done, rfl⟩
    · exact .inl ⟨.inl ⟨fault, rfl⟩, unchanged⟩
    · obtain ⟨b, loaded⟩ := batch_of_saveProgress done
      obtain ⟨_, product, _, _, -, -, found, -, evaluated, kept, stored⟩ :=
        saveProgress_steps loaded done
      have fine := point_of_evaluateAll evaluated (by simp)
      exact .inr (.inr ⟨id, rfl, ⟨_, rfl⟩, b, _, loaded,
        .saved (fun r mem => ⟨product, found, fine r mem⟩) kept, stored⟩)
  | submit id items measuredBy =>
    rcases settle_eq h with ⟨fault, rfl, rfl⟩ | ⟨completion, done, rfl⟩
    · exact .inl ⟨.inl ⟨fault, rfl⟩, unchanged⟩
    · obtain ⟨b, loaded⟩ := batch_of_submitBatch done
      obtain ⟨_, product, _, _, -, -, found, -, evaluated, completed, stored⟩ :=
        submitBatch_steps loaded done
      have fine := point_of_evaluateComplete evaluated
      exact .inr (.inr ⟨id, rfl, ⟨_, rfl⟩, b, _, loaded,
        .completed (fun r mem => ⟨product, found, fine r mem⟩) completed, stored⟩)
  | cancel id =>
    rcases settle_eq h with ⟨fault, rfl, rfl⟩ | ⟨b', done, rfl⟩
    · exact .inl ⟨.inl ⟨fault, rfl⟩, unchanged⟩
    · obtain ⟨b, loaded⟩ := batch_of_cancelBatch done
      obtain ⟨isOpen, e, stored⟩ := cancelBatch_steps loaded done
      exact .inr (.inr ⟨id, rfl, ⟨_, rfl⟩, b, _, loaded,
        .cancelled (Batch.cancel_eq_ok.2 ⟨isOpen, e⟩), stored⟩)

/-- What has come of a call for a batch: it failed and wrote nothing, or the batch was stored
anew. -/
lemma perform_target {id : String} (target : c.target? = some id)
    (h : s.perform c = (outcome, s')) :
    ((∃ fault, outcome = .error fault) ∧ ∃ codes, s' = { s with codes := codes }) ∨
      (∃ reply, outcome = .ok reply) ∧ s.Restores s' id := by
  rcases perform_cases h with ⟨failed, unchanged⟩ | ⟨_, _, _, rfl, -, -⟩ |
    ⟨id', target', ok, restores⟩
  · refine .inl ⟨?_, unchanged⟩
    rcases failed with failed | answers
    · exact failed
    · cases c with
      | create | dependencies | preview => cases target
      | save | submit | cancel => cases answers
  · cases target
  · obtain rfl := Option.some.inj (target.symm.trans target')
    exact .inr ⟨ok, restores⟩

/-- A call that only answers leaves the session. -/
lemma perform_answer (answers : c.writes = false) (h : s.perform c = (outcome, s')) : s' = s := by
  cases c with
  | dependencies id item submitted => exact settle_answer h
  | preview id submission others => exact settle_answer h
  | create | save | submit | cancel => cases answers

/-- A batch that is stored anew under its own name leaves the records of all other places. -/
lemma Restores.batch_other {id id' : String} (own : s.KeepsOwn) (h : s.Restores s' id)
    (other : s.place? id' ≠ s.place? id) : s'.batch id' = s.batch id' := by
  obtain ⟨b, b', loaded, written, stored⟩ := h
  have place : s.place? b'.id = s.place? id := by rw [written.id_eq, own id b loaded]
  refine batch_of_save_other ?_ stored (place ▸ other)
  rw [place]
  exact place?_isSome_of_batch loaded

/-- What calls change and what they leave alone, where each batch is stored under its own name. A
call that fails leaves every stored batch, and one that only answers leaves the session. One that is
for a batch stores it anew if it succeeds, and changes no record but that of its name. -/
theorem perform_framed (own : s.KeepsOwn) (h : s.perform c = (outcome, s')) :
    (∀ fault, outcome = .error fault → ∀ id, s'.batch id = s.batch id) ∧
      (c.writes = false → s' = s) ∧
      ∀ id, c.target? = some id →
        (∀ reply, outcome = .ok reply → s.Restores s' id) ∧
        ∀ id', s.place? id' ≠ s.place? id → s'.batch id' = s.batch id' := by
  refine ⟨?_, fun answers => perform_answer answers h, ?_⟩
  · rintro fault rfl id
    rcases perform_cases h with ⟨-, codes, rfl⟩ | ⟨_, _, _, -, -, ok⟩ | ⟨_, -, ⟨_, ok⟩, -⟩
    · rfl
    · cases ok
    · cases ok
  · intro id target
    rcases perform_target target h with ⟨⟨fault, failed⟩, codes, rfl⟩ | ⟨-, restores⟩
    · refine ⟨fun reply ok => ?_, fun id' other => rfl⟩
      rw [failed] at ok
      cases ok
    · exact ⟨fun _ _ => restores, fun id' other => restores.batch_other own other⟩

end Session

namespace Plate

open Session

/-- A second batch of plates. -/
def second : Batch :=
  { opened with id := "MSR-00000002" }

/-- A session that keeps two batches of plates. -/
def stock : Session :=
  { session opened with store := .memory (.ofList [(opened.id, opened), (second.id, second)]) }

/-- The two batches are stored under their names. -/
lemma keepsOwn_stock : stock.KeepsOwn := by
  refine keepsOwn_memory (by rfl) fun id b found => ?_
  rw [Table.find?_eq_some, Table.entries_ofList (by decide)] at found
  rcases List.mem_pair.1 found with e | e
  · cases e
    rfl
  · cases e
    rfl

/-- The first of two batches is cancelled, and the second one stays. -/
theorem perform_framed_cancel : ∃ s', stock.perform (.cancel opened.id) =
    (.ok (.cancelled { opened with status := .cancelled }), s') ∧
      s'.batch second.id = stock.batch second.id := by
  have done : ∃ s', stock.perform (.cancel opened.id) =
      (.ok (.cancelled { opened with status := .cancelled }), s') := ⟨_, rfl⟩
  obtain ⟨s', done⟩ := done
  obtain ⟨-, -, framed⟩ := perform_framed keepsOwn_stock done
  exact ⟨s', done, (framed opened.id rfl).2 second.id (by decide)⟩

end Plate

end Inspection
