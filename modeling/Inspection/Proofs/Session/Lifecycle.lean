import Inspection.Proofs.Session.Calls
import Inspection.Proofs.Session.Consistency

/-!
# The life of a batch

A batch is created, and then called upon at any times (`Session.Reaches`). What each call keeps is
`Tends`: the record can be reached and is regular, and no product has come up (`Tends.perform`); so
it holds after any calls (`Tends.of_reaches`). With it every call leaves the record and fails, or
moves its status one of its ways, and a record that is closed stays (`lifecycle`).
-/

namespace Inspection

namespace Session

/-- Calls for the batch of a name, at any times, lead from a session to another. -/
inductive Reaches (id : String) (s : Session) : Session → Prop where
  | start : Reaches id s s
  | call {s' s'' : Session} {c : Call} {outcome : Outcome Reply} :
    Reaches id s s' →
    c.target? = some id →
    s'.perform c = (outcome, s'') →
    Reaches id s s''
  | wait {s' : Session} {time : Timestamp} :
    Reaches id s s' →
    Reaches id s { s' with now := time }

/-- A later session keeps a batch: the batch can be reached and stored, and is regular, and no
product has come up. -/
structure Tends (s₁ : Session) (b : Batch) (s : Session) : Prop where
  reached : (s.place? b.id).isSome
  storable : s.Storable b.id
  products : ∀ n p, s.product n = .ok p → s₁.product n = .ok p
  id : ∀ b', s.batch b.id = .ok b' → b'.id = b.id
  product : ∀ b', s.batch b.id = .ok b' → b'.product = b.product
  regular : ∀ b', s.batch b.id = .ok b' → b'.Regular (s₁.HasPoint b.product)

variable {s₀ s₁ s s' : Session} {b b' : Batch} {c : Call} {outcome : Outcome Reply} {id : String}

/-- A batch that was created is kept. -/
lemma tends_of_createBatch {name : Json} {request : BatchRequest}
    (created : s₀.createBatch name request = (.ok b, s₁)) : s₁.Tends b s₁ := by
  obtain ⟨_, _, -, -, -, new, stored⟩ := createBatch_steps created
  have back {b'} (loaded : s₁.batch b.id = .ok b') : b.Restored b' :=
    restored_of_save stored rfl loaded
  exact
    { reached := place?_isSome_of_save stored
      storable := storable_again stored
      products := fun _ _ found => found
      id := fun b' loaded => (back loaded).id
      product := fun b' loaded => (back loaded).product
      regular := fun b' loaded => (back loaded).regular new.regular }

/-- A batch is kept in whatever differs in its codes and its time alone. -/
lemma Tends.alike (h : s₁.Tends b s) {codes : Codes} {time : Timestamp} :
    s₁.Tends b { s with codes := codes, now := time } := by
  refine ⟨h.reached, fun b' own => ?_, h.products, h.id, h.product, h.regular⟩
  obtain ⟨s', h⟩ := h.storable b' own
  obtain ⟨store, disk, stored, -⟩ := save_eq_ok.1 h
  exact ⟨_, save_eq_ok.2 ⟨store, disk, stored, rfl⟩⟩

/-- A batch that is stored anew is kept. -/
lemma Tends.of_restores (h : s₁.Tends b s) (restores : s.Restores s' b.id) : s₁.Tends b s' := by
  obtain ⟨old, new, loaded, written, stored⟩ := restores
  have own : new.id = b.id := by rw [written.id_eq, h.id old loaded]
  have there : (s.place? new.id).isSome := own ▸ h.reached
  -- the points were found in the session of the call, whose products were there from the start
  have regular : new.Regular (s₁.HasPoint b.product) := by
    refine (written.mono ?_).regular (h.regular old loaded)
    rintro n ⟨p, found, point⟩
    exact ⟨p, h.products _ p (h.product old loaded ▸ found), point⟩
  have back {b'} (loaded' : s'.batch b.id = .ok b') : new.Restored b' :=
    restored_of_save stored (by rw [own]) loaded'
  exact
    { reached := by rw [place?_of_save there stored]; exact h.reached
      storable := own ▸ storable_again stored
      products := fun n p found => h.products n p (product_of_save there stored found)
      id := fun b' loaded' => by rw [(back loaded').id, own]
      product := fun b' loaded' => by
        rw [(back loaded').product, written.product_eq, h.product old loaded]
      regular := fun b' loaded' => (back loaded').regular regular }

/-- A batch that is called upon is kept. -/
theorem Tends.perform (h : s₁.Tends b s) (target : c.target? = some b.id)
    (called : s.perform c = (outcome, s')) : s₁.Tends b s' := by
  rcases perform_target target called with ⟨-, codes, rfl⟩ | ⟨-, restores⟩
  · exact h.alike
  · exact h.of_restores restores

/-- A batch is kept however often it is called upon. -/
theorem Tends.of_reaches (h : s₁.Tends b s) (run : s.Reaches b.id s') : s₁.Tends b s' := by
  induction run with
  | start => exact h
  | call _ target called ih => exact ih.perform target called
  | wait _ ih => exact ih.alike

/-- A call for a closed batch fails, and the batch stays as it is. -/
lemma perform_closed (loaded : s.batch id = .ok b) (closed : b.status.isOpen = false)
    (target : c.target? = some id) (h : s.perform c = (outcome, s')) :
    (∃ fault, outcome = .error fault) ∧ s'.batch id = .ok b := by
  rcases perform_target target h with ⟨failed, codes, rfl⟩ | ⟨-, old, new, loaded', written, -⟩
  · exact ⟨failed, loaded⟩
  · obtain rfl := Except.ok.inj (loaded.symm.trans loaded')
    rw [written.isOpen] at closed
    cases closed

/-- A closed batch stays as it is however often it is called upon. -/
lemma batch_of_closed (loaded : s.batch id = .ok b) (closed : b.status.isOpen = false)
    (run : s.Reaches id s') : s'.batch id = .ok b := by
  induction run with
  | start => exact loaded
  | call _ target called ih => exact (perform_closed ih closed target called).2
  | wait _ ih => exact ih

/-- An open batch can be cancelled. -/
lemma cancelBatch_of_open (loaded : s.batch id = .ok b) (isOpen : b.status.isOpen)
    (storable : s.Storable b.id) :
    ∃ s', s.cancelBatch id = .ok ({ b with status := .cancelled }, s') := by
  obtain ⟨s', stored⟩ := storable { b with status := .cancelled } rfl
  refine ⟨s', ?_⟩
  rw [cancelBatch, loaded, ok_bind, Batch.cancel_eq_ok.2 ⟨isOpen, rfl⟩, Outcome.of, ok_bind, stored]
  rfl

/-- The life of a batch, from its creation on. Its record is regular at all times. A call for it
fails and leaves the record, or it succeeds, which it does for an open record only, and the status
goes one of its ways. An open record can be cancelled, and a closed one stays as it is for good. -/
theorem lifecycle {name : Json} {request : BatchRequest}
    (created : s₀.createBatch name request = (.ok b, s₁)) (run : s₁.Reaches b.id s)
    (loaded : s.batch b.id = .ok b') :
    b'.Regular (s₁.HasPoint b.product) ∧
      (∀ c outcome s', c.target? = some b.id → s.perform c = (outcome, s') →
        (∃ fault, outcome = .error fault) ∧ s'.batch b.id = .ok b' ∨
        (∃ reply, outcome = .ok reply) ∧ b'.status.isOpen ∧
          ∀ b'', s'.batch b.id = .ok b'' → BatchStatus.Leads b'.status b''.status) ∧
      (b'.status.isOpen → ∃ s', s.cancelBatch b.id = .ok ({ b' with status := .cancelled }, s')) ∧
      (b'.status.isOpen = false → ∀ s', s.Reaches b.id s' → s'.batch b.id = .ok b') := by
  have tends : s₁.Tends b s := (tends_of_createBatch created).of_reaches run
  have own : b'.id = b.id := tends.id b' loaded
  refine ⟨tends.regular b' loaded, ?_,
    fun isOpen => cancelBatch_of_open loaded isOpen (own ▸ tends.storable),
    fun closed s' run' => batch_of_closed loaded closed run'⟩
  intro c outcome s' target called
  rcases perform_target target called with ⟨failed, codes, rfl⟩ |
    ⟨ok, old, new, loaded', written, stored⟩
  · exact .inl ⟨failed, loaded⟩
  · obtain rfl := Except.ok.inj (loaded.symm.trans loaded')
    refine .inr ⟨ok, written.isOpen, fun b'' again => ?_⟩
    have back : new.Restored b'' := restored_of_save stored (by rw [written.id_eq, own]) again
    rw [back.status]
    exact written.leads

end Session

namespace Plate

open Session

/-- A batch of plates is created and completed: it is good, and stays for good. -/
theorem lifecycle_completed : ∃ s b, (session opened).Reaches opened.id s ∧
    s.batch opened.id = .ok b ∧ b.status = .completed ∧
    b.Regular ((session opened).HasPoint "plate") ∧
    ∀ s', s.Reaches opened.id s' → s'.batch opened.id = .ok b := by
  have read : Submission.parseAll [document "copy" [], document "thickness" [1.0]] =
      .ok [submission "copy" [], submission "thickness" [1.0]] := by rfl
  have found : (session opened).product opened.product = .ok product := product_session opened
  obtain ⟨-, sound⟩ := Product.sound_of_check accepted
  obtain ⟨rs, completion, s, -, completed, stored, submitted⟩ := submitBatch_of_settles sound
    (batch_session opened) found read (by rfl) reachable_opened.distinct settles_opened (by simp)
    (storable_session opened _) none
  obtain ⟨-, -, -, e⟩ := Batch.complete_eq_ok.1 completed
  have status : completion.batch.status = .completed := by rw [e]
  have called : (session opened).perform
      (.submit opened.id [document "copy" [], document "thickness" [1.0]] none) =
        (.ok (.completion completion), s) := by
    rw [perform, submitted, settle]
  have loaded : s.batch opened.id = .ok completion.batch := by
    rw [← Batch.id_of_complete completed]
    exact (save_memory (by rfl) stored).1
  have run : (session opened).Reaches opened.id s := .call .start (by rfl) called
  obtain ⟨regular, -, -, stays⟩ := lifecycle createBatch_opened run loaded
  exact ⟨s, completion.batch, run, loaded, status, regular, stays (by rw [status]; rfl)⟩

end Plate

end Inspection
