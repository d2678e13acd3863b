import Inspection.Proofs.Session.Lifecycle
import Inspection.Proofs.Store.Names
import Inspection.Proofs.Store.Reloading
import Inspection.Request

/-!
# Creating batches

New batches get names from codes that may have been used before, and a store takes a batch without
asking what it has under its name. So a creation leaves all records but that of the new name
(`batch_of_createBatch`), and what is kept of a closed batch is kept until a batch of its name is
created, whatever sessions share the store (`creation_spares`). Sessions that derive their codes do
use the same names (`Plate.creation_may_replace`).

A request without a batch creates one before anything else, and what comes after it may fail. So a
request that fails leaves the session, but for codes that it used up, or it leaves the session with
the batch that it created and nothing more (`runIn_eq_error`). On the disk of a site that is the one
new batch at most, beside all batches of other names (`failed_request`).
-/

namespace Inspection

/-- What is done over a store: a call, or a request from outside. -/
inductive Act
  | call (c : Call)
  | request (r : Request)

namespace Session

/-- The session after something was done. -/
def after (s : Session) : Act → Session
  | .call c => (s.perform c).2
  | .request r => (r.runIn s).2

/-- The batch that is created by what is done, and the session right after that. A request creates
one if it names a product and no batch. -/
def created? (s : Session) : Act → Option (Batch × Session)
  | .call (.create name request) => ofCreation (s.createBatch name request)
  | .request r =>
    if !r.batch.isPresent && r.product.isPresent then ofCreation (s.createBatch r.product .none)
    else none
  | .call _ => none
where
  ofCreation : Outcome Batch × Session → Option (Batch × Session)
    | (.ok b, s) => some (b, s)
    | (.error _, _) => none

/-- What is done by any sessions that share a store leads from one session to another, without the
creation of a batch of a name. -/
inductive Spares (id : String) (s : Session) : Session → Prop where
  | start : Spares id s s
  | act {s₁ s₂ : Session} {a : Act} :
    Spares id s s₁ →
    s₂.store = s₁.store →
    s₂.disk = s₁.disk →
    s₂.codes.Hexadecimal →
    (∀ b t, s₂.created? a = some (b, t) → b.id ≠ id) →
    Spares id s (s₂.after a)

variable {s s' : Session} {b x : Batch} {id : String}

/-! ## One creation -/

/-- Names are kept for themselves wherever a batch was stored. -/
lemma Names.of_save (named : s.Names id) (h : s.save b = .ok s') : s'.Names id := by
  intro root place'
  cases place : s.store with
  | memory batches =>
    obtain rfl := (save_memory_eq_ok place).1 h
    cases place'
  | directory root' => exact named root' place

section

variable {name : Json} {request : BatchRequest} (hex : s.codes.Hexadecimal)
  (created : s.createBatch name request = (.ok b, s')) (named : s.Names id) (other : id ≠ b.id)

include hex created named other

/-- A new batch is not in the place of another name. -/
lemma place?_ne_of_createBatch : s'.place? id ≠ s'.place? b.id := by
  have plain := plain_of_createBatch hex created
  obtain ⟨_, codes, -, -, -, -, stored⟩ := createBatch_steps created
  have named' : s'.Names id := named.of_save (s := { s with codes := codes }) stored
  intro same
  exact other (place?_inj (fun _ _ => plain) named' (place?_isSome_of_save stored) same.symm).symm

/-- A creation leaves the records of all other names. -/
lemma batch_of_createBatch (loaded : s.batch id = .ok x) : s'.batch id = .ok x := by
  have apart := place?_ne_of_createBatch hex created named other
  obtain ⟨_, codes, -, -, -, -, stored⟩ := createBatch_steps created
  exact batch_of_save_kept stored loaded apart

end

/-- A new batch that was stored is loaded as it is. -/
lemma batch_of_save_new (new : b.New) (h : s.save b = .ok s')
    (short : ∀ root, s.store = .directory root →
      Decimal.digitCount b.sampleCount.val ≤ Decimal.maxIntegerDigits) :
    s'.batch b.id = .ok b := by
  refine (batch_of_save h).2 fun root place => ⟨?_, ?_⟩
  · simp [Batch.numbers, new.results]
  · simpa [Batch.counts, new.results] using short root place

/-! ## Closed batches -/

/-- What is loaded from one place is the same. -/
lemma batch_unique {id' : String} {y : Batch} (loaded : s.batch id = .ok x)
    (loaded' : s.batch id' = .ok y) (same : s.place? id = s.place? id') : x = y := by
  cases place : s.store with
  | memory batches =>
    rw [place?_memory place, place?_memory place, Option.some.injEq] at same
    subst same
    exact Except.ok.inj (loaded.symm.trans loaded')
  | directory root =>
    rw [place?_directory place, place?_directory place] at same
    obtain ⟨-, text, j, read, value, found⟩ := batch_directory place loaded
    obtain ⟨-, text', j', read', value', found'⟩ := batch_directory place loaded'
    obtain rfl := Disk.read_unique read read' same
    obtain rfl := Except.ok.inj (value.symm.trans value')
    exact Reading.found.inj (found.symm.trans found')

/-- Each batch is still stored under its own name after one was stored where it can be reached. -/
lemma KeepsOwn.of_save (own : s.KeepsOwn) (there : (s.place? b.id).isSome)
    (h : s.save b = .ok s') : s'.KeepsOwn := by
  intro id x loaded
  rw [place?_of_save there h, place?_of_save there h]
  by_cases same : s.place? id = s.place? b.id
  · have back : b.Restored x := restored_of_save h
      (by rw [place?_of_save there h, place?_of_save there h, same]) loaded
    rw [back.id, same]
  · rw [batch_of_save_other there h same] at loaded
    exact own id x loaded

/-- A batch of a plain name can be reached before it is created, where another one of a plain name
can. -/
lemma place?_isSome_of_plain (named : s.Names id) (there : (s.place? id).isSome)
    (plain : Plain b.id) (h : s.save b = .ok s') : (s.place? b.id).isSome := by
  cases place : s.store with
  | memory batches =>
    rw [place?_memory place]
    rfl
  | directory root =>
    obtain ⟨made, names, ensured, located, -⟩ := save_directory place h
    rw [place?_directory place, Option.isSome_iff_exists] at there
    obtain ⟨own, reached⟩ := there
    obtain ⟨names', located', -⟩ := Disk.place?_eq_some.1 reached
    have same : (Store.documentPath root b.id).parent = (Store.documentPath root id).parent := by
      rw [plain.documentPath, (named root place).documentPath]
      simp [Path.parent]
    rw [same] at ensured
    have some : (Store.documentPath root id).names ≠ [] := by
      rw [(named root place).documentPath]
      simp
    obtain rfl := Disk.made_of_locate some located' ensured
    rw [place?_directory place, Disk.place?_eq_some.2 ⟨names, located, rfl⟩]
    rfl

/-- A closed batch that is kept under a name for itself, each batch being stored under its own. -/
structure Closed (id : String) (x : Batch) (s : Session) : Prop where
  own : s.KeepsOwn
  named : s.Names id
  loaded : s.batch id = .ok x
  closed : x.status.isOpen = false

/-- A session that shares the store has the same records. -/
lemma Closed.shared (h : s.Closed id x) (store : s'.store = s.store) (disk : s'.disk = s.disk) :
    s'.Closed id x := by
  have batch_eq : ∀ id, s'.batch id = s.batch id := fun id => by rw [batch, batch, store, disk]
  have place?_eq : ∀ id, s'.place? id = s.place? id := fun id => by
    rw [place?, place?, store, disk]
  refine ⟨fun id' x' loaded => ?_, fun root place => h.named root (store ▸ place), ?_, h.closed⟩
  · rw [place?_eq, place?_eq]
    exact h.own id' x' (batch_eq id' ▸ loaded)
  · rw [batch_eq]
    exact h.loaded

/-- What is stored anew is another batch, so a closed one is left. -/
lemma Closed.restores {id' : String} (h : s.Closed id x) (restores : s.Restores s' id') :
    s'.Closed id x := by
  obtain ⟨old, new, loaded, written, stored⟩ := restores
  have place : s.place? new.id = s.place? id' := by rw [written.id_eq, h.own id' old loaded]
  have there : (s.place? new.id).isSome := place ▸ place?_isSome_of_batch loaded
  -- in one place with the closed batch the old record would be the closed one, which is not written
  have other : s.place? id ≠ s.place? new.id := by
    rw [place]
    intro same
    have closed := h.closed
    rw [batch_unique h.loaded loaded same, written.isOpen] at closed
    cases closed
  exact ⟨h.own.of_save there stored, h.named.of_save stored,
    (batch_of_save_other there stored other).trans h.loaded, h.closed⟩

/-- A batch of another name is created, so a closed one is left. -/
lemma Closed.created (h : s.Closed id x) (hex : s.codes.Hexadecimal) {name : Json}
    {request : BatchRequest} (created : s.createBatch name request = (.ok b, s'))
    (other : b.id ≠ id) : s'.Closed id x := by
  have loaded := batch_of_createBatch hex created h.named other.symm h.loaded
  have plain := plain_of_createBatch hex created
  obtain ⟨_, codes, -, -, -, -, stored⟩ := createBatch_steps created
  have h' : Closed id x { s with codes := codes } := ⟨h.own, h.named, h.loaded, h.closed⟩
  have there := place?_isSome_of_plain h'.named (place?_isSome_of_batch h'.loaded) plain stored
  exact ⟨h'.own.of_save there stored, h'.named.of_save stored, loaded, h.closed⟩

/-! ## What is done over a store -/

/-- What has come of the answer to a request: nothing was written, or the batch was stored anew. -/
lemma answer_cases {r : Request} {a : Answer} (h : r.answer s id = .ok (a, s')) :
    s' = s ∨ s.Restores s' id := by
  rw [Request.answer] at h
  split at h
  case h_1 =>
    obtain ⟨_, -, e⟩ := bind_eq_ok.1 h
    cases pure_eq_ok.1 e
    exact .inl rfl
  case h_2 =>
    obtain ⟨_, -, e⟩ := bind_eq_ok.1 h
    cases pure_eq_ok.1 e
    exact .inl rfl
  case h_3 =>
    obtain ⟨_, -, h⟩ := bind_eq_ok.1 h
    obtain ⟨⟨progress, s''⟩, done, e⟩ := bind_eq_ok.1 h
    cases pure_eq_ok.1 e
    have called : s.perform (.save id r.items) = (.ok (.progress progress), s') := by
      rw [perform, done, settle]
    rcases perform_target (by rfl) called with ⟨⟨_, failed⟩, -⟩ | ⟨-, restores⟩
    · cases failed
    · exact .inr restores
  case h_4 =>
    obtain ⟨_, -, h⟩ := bind_eq_ok.1 h
    obtain ⟨⟨completion, s''⟩, done, e⟩ := bind_eq_ok.1 h
    cases pure_eq_ok.1 e
    have called : s.perform (.submit id r.items r.measuredBy) =
        (.ok (.completion completion), s') := by
      rw [perform, done, settle]
    rcases perform_target (by rfl) called with ⟨⟨_, failed⟩, -⟩ | ⟨-, restores⟩
    · cases failed
    · exact .inr restores

/-- A creation that succeeds creates its batch. -/
lemma ofCreation_eq_some {creation : Outcome Batch × Session} {t : Session} :
    created?.ofCreation creation = some (b, t) ↔ creation = (.ok b, t) := by
  obtain ⟨outcome, t'⟩ := creation
  cases outcome with
  | error fault => simp [created?.ofCreation]
  | ok b' => simp [created?.ofCreation]

/-- A creation that fails creates no batch. -/
lemma ofCreation_eq_none {creation : Outcome Batch × Session} :
    created?.ofCreation creation = none ↔ ∃ fault t, creation = (.error fault, t) := by
  obtain ⟨outcome, t'⟩ := creation
  cases outcome with
  | error fault => simp [created?.ofCreation]
  | ok b' => simp [created?.ofCreation]

/-- What has come of a request once its batch is found. -/
lemma runIn_cases {r : Request} {batch : Json} {t : Session} (h : r.findBatch s = (.ok batch, t)) :
    (r.runIn s).2 = t ∨ t.Restores (r.runIn s).2 batch.display := by
  rw [Request.runIn, h]
  dsimp only
  split
  case h_1 => exact .inl rfl
  case h_2 answered => exact answer_cases answered

/-- What is done after a creation: nothing more is written, or the new batch is stored anew. -/
lemma after_created {a : Act} {t : Session} (h : s.created? a = some (b, t)) :
    (∃ name request, s.createBatch name request = (.ok b, t)) ∧
      (s.after a = t ∨ t.Restores (s.after a) b.id) := by
  cases a with
  | call c =>
    cases c with
    | create name request =>
      have created := ofCreation_eq_some.1 h
      refine ⟨⟨name, request, created⟩, .inl ?_⟩
      rw [after, perform, created]
    | dependencies | preview | save | submit | cancel => cases h
  | request r =>
    rw [created?] at h
    split at h
    case isTrue unnamed =>
      have created := ofCreation_eq_some.1 h
      rw [Bool.and_eq_true, Bool.not_eq_true'] at unnamed
      have found : r.findBatch s = (.ok (.text b.id), t) := by
        rw [Request.findBatch, unnamed.1, unnamed.2, created]
        rfl
      exact ⟨⟨r.product, .none, created⟩, runIn_cases found⟩
    case isFalse => cases h

/-- What is done without a creation: nothing is written, or a batch is stored anew. -/
lemma after_uncreated {a : Act} (h : s.created? a = none) :
    (∃ codes, s.after a = { s with codes := codes }) ∨ ∃ id, s.Restores (s.after a) id := by
  have unchanged : ∃ codes, s = { s with codes := codes } := ⟨s.codes, rfl⟩
  cases a with
  | call c =>
    rcases perform_cases (s := s) (c := c) rfl with ⟨-, codes, e⟩ |
      ⟨name, request, b, rfl, created, -⟩ | ⟨id, -, -, restores⟩
    · exact .inl ⟨codes, e⟩
    · cases (ofCreation_eq_some.2 created).symm.trans h
    · exact .inr ⟨id, restores⟩
  | request r =>
    rw [created?] at h
    rw [after]
    by_cases named : r.batch.isPresent
    · have found : r.findBatch s = (.ok r.batch, s) := by rw [Request.findBatch, if_pos named]
      rcases runIn_cases found with e | restores
      · rw [e]
        exact .inl unchanged
      · exact .inr ⟨_, restores⟩
    · by_cases product : r.product.isPresent
      · rw [if_pos (by simp [named, product])] at h
        obtain ⟨fault, t, failed⟩ := ofCreation_eq_none.1 h
        rw [Request.runIn, Request.findBatch, if_neg named, if_pos product, failed]
        exact .inl (createBatch_error failed)
      · rw [Request.runIn, Request.findBatch, if_neg named, if_neg product]
        exact .inl unchanged

/-- What is done without the creation of a batch of its name leaves a closed batch. -/
lemma Closed.after (h : s.Closed id x) (hex : s.codes.Hexadecimal) {a : Act}
    (fine : ∀ b t, s.created? a = some (b, t) → b.id ≠ id) : (s.after a).Closed id x := by
  cases creates : s.created? a with
  | none =>
    rcases after_uncreated creates with ⟨codes, e⟩ | ⟨id', restores⟩
    · rw [e]
      exact ⟨h.own, h.named, h.loaded, h.closed⟩
    · exact h.restores restores
  | some created =>
    obtain ⟨b, t⟩ := created
    obtain ⟨⟨name, request, created⟩, later⟩ := after_created creates
    have kept : t.Closed id x := h.created hex created (fine b t creates)
    rcases later with e | restores
    · rw [e]
      exact kept
    · exact kept.restores restores

/-- A closed batch is left by whatever any sessions do that share the store, unless a batch of its
name is created. -/
lemma Closed.of_spares (h : s.Closed id x) (run : s.Spares id s') : s'.Closed id x := by
  induction run with
  | start => exact h
  | act _ store disk hex fine ih => exact (ih.shared store disk).after hex fine

/-- What creating batches leaves. A new batch is stored, and all records of other names stay, also
when a request goes on with the new batch. So where each batch is stored under its own name, a
closed one stays through whatever is done by any sessions that share the store, until a batch of its
name is created. -/
theorem creation_spares (hex : s.codes.Hexadecimal) :
    (∀ a b t, s.created? a = some (b, t) → b.New ∧
      ((∀ root, s.store = .directory root →
        Decimal.digitCount b.sampleCount.val ≤ Decimal.maxIntegerDigits) →
          t.batch b.id = .ok b) ∧
      ∀ id x, s.Names id → id ≠ b.id → s.batch id = .ok x →
        t.batch id = .ok x ∧ (s.after a).batch id = .ok x) ∧
    (s.KeepsOwn → ∀ id x, s.Names id → s.batch id = .ok x → x.status.isOpen = false →
      ∀ s', s.Spares id s' → s'.batch id = .ok x) := by
  refine ⟨fun a b t creates => ?_, fun own id x named loaded closed s' run =>
    (Closed.of_spares ⟨own, named, loaded, closed⟩ run).loaded⟩
  obtain ⟨⟨name, request, created⟩, later⟩ := after_created creates
  obtain ⟨_, codes, -, -, -, new, stored⟩ := createBatch_steps created
  refine ⟨new, fun short => batch_of_save_new new stored short, fun id x named other loaded => ?_⟩
  have kept : t.batch id = .ok x := batch_of_createBatch hex created named other loaded
  refine ⟨kept, ?_⟩
  rcases later with e | ⟨old, new', loaded', written, stored'⟩
  · rw [e]
    exact kept
  · -- the request went on with the new batch, which is stored under its own name
    have own : new'.id = b.id := by
      rw [written.id_eq, (restored_of_save stored rfl loaded').id]
    have there : (t.place? new'.id).isSome := own ▸ place?_isSome_of_save stored
    have apart : t.place? id ≠ t.place? new'.id :=
      own ▸ place?_ne_of_createBatch hex created named other
    rw [batch_of_save_other there stored' apart, kept]

end Session

namespace Plate

open Session

/-- A cancelled batch of plates. -/
def archived : Batch :=
  { opened with status := .cancelled }

/-- A session that keeps a cancelled batch and draws another code. -/
def archive : Session :=
  { session archived with codes := ⟨false, 0, fun _ => "0000beef", 0⟩ }

/-- A batch is created beside a cancelled one, which stays for good. -/
theorem creation_spares_archived : ∃ b t,
    archive.created? (.call (.create (.text "plate") .none)) = some (b, t) ∧
      t.batch b.id = .ok b ∧ t.batch archived.id = .ok archived ∧
      ∀ s', archive.Spares archived.id s' → s'.batch archived.id = .ok archived := by
  have hex : archive.codes.Hexadecimal := fun _ => by
    change ∀ x ∈ "0000beef".toList, x ∈ codeDigits
    simp [codeDigits]
  have inMemory : ∀ root, archive.store ≠ .directory root := by
    intro root place
    cases place
  have named : archive.Names archived.id := fun root place => absurd place (inMemory root)
  have loaded : archive.batch archived.id = .ok archived := batch_session archived
  have own : archive.KeepsOwn := by
    refine keepsOwn_memory (by rfl) fun id b found => ?_
    rw [Table.find?_eq_some, Table.entries_ofList (by decide)] at found
    cases List.mem_singleton.1 found
    rfl
  obtain ⟨one, all⟩ := creation_spares hex
  have creates : ∃ b t, archive.created? (.call (.create (.text "plate") .none)) = some (b, t) ∧
      archived.id ≠ b.id := ⟨_, _, rfl, by decide⟩
  obtain ⟨b, t, creates, other⟩ := creates
  obtain ⟨-, stored, kept⟩ := one _ b t creates
  exact ⟨b, t, creates, stored fun root place => absurd place (inMemory root),
    (kept _ _ named other loaded).1,
    all own _ _ named loaded (by rfl)⟩

/-- A session that derives its codes, over a store in memory. -/
def newcomer (batches : Table Batch) : Session :=
  { unopened with store := .memory batches, codes := ⟨true, 0, fun _ => "", 0⟩ }

/-- The first batch of a session that derives its codes. -/
def derived : Batch :=
  { opened with
    id := "MSR-" ++ Digest.nameCode ("plate" ++ ":" ++ toString 2) 8
    number := "BATCH-" ++ opened.createdAt.dayText ++ "-" ++
      Digest.nameCode ("plate" ++ ":batch" ++ ":" ++ toString 1) 6 }

/-- A session that derives its codes has the same first batch over every store. -/
lemma createBatch_newcomer (batches : Table Batch) :
    (newcomer batches).createBatch (.text "plate") .none =
      (.ok derived, { newcomer (batches.insert derived.id derived) with
        codes := ⟨true, 2, fun _ => "", 0⟩ }) := by
  rfl

/-- A batch of a session that derives its codes is cancelled; another such session over the store
creates a batch of the same name, and the cancelled one is gone. -/
theorem creation_may_replace : ∃ s₁ b s₂ batches s₃,
    (newcomer .empty).createBatch (.text "plate") .none = (.ok derived, s₁) ∧
      s₁.cancelBatch derived.id = .ok (b, s₂) ∧
      b.status = .cancelled ∧ s₂.batch derived.id = .ok b ∧
      s₂.store = .memory batches ∧
      (newcomer batches).createBatch (.text "plate") .none = (.ok derived, s₃) ∧
      derived.status = .pending ∧ s₃.batch derived.id = .ok derived := by
  let cancelled : Batch := { derived with status := .cancelled }
  let s₁ : Session := { newcomer (.insert .empty derived.id derived) with
    codes := ⟨true, 2, fun _ => "", 0⟩ }
  have first : (newcomer .empty).createBatch (.text "plate") .none = (.ok derived, s₁) :=
    createBatch_newcomer .empty
  have cancels : derived.cancel = .ok cancelled := Batch.cancel_eq_ok.2 ⟨by rfl, rfl⟩
  obtain ⟨s₂, stored⟩ := storable_memory (s := s₁) (by rfl) cancelled rfl
  obtain ⟨_, codes, -, -, -, -, created⟩ := createBatch_steps first
  have loaded : s₁.batch derived.id = .ok derived := (save_memory (by rfl) created).1
  have done : s₁.cancelBatch derived.id = .ok (cancelled, s₂) := by
    rw [cancelBatch, loaded, ok_bind, cancels, Outcome.of, ok_bind, stored]
    rfl
  obtain rfl := (save_memory_eq_ok (by rfl)).1 stored
  have again := createBatch_newcomer
    (((Table.empty.insert derived.id derived)).insert cancelled.id cancelled)
  obtain ⟨_, codes', -, -, -, -, created'⟩ := createBatch_steps again
  exact ⟨s₁, cancelled, _, _, _, first, done, rfl, (save_memory (by rfl) stored).1, rfl, again, rfl,
    (save_memory (by rfl) created').1⟩

end Plate

open Session

/-! ## Requests that fail -/

/-- A request that fails in a session used up codes at most, or left the batch that it created. -/
lemma Request.runIn_eq_error {r : Request} {s s' : Session} {fault : Fault}
    (h : r.runIn s = (.error fault, s')) :
    (∃ codes, s' = { s with codes := codes }) ∨
      r.batch.isPresent = false ∧ ∃ b, s.createBatch r.product .none = (.ok b, s') := by
  have same : ∃ codes, s = { s with codes := codes } := ⟨s.codes, rfl⟩
  rw [runIn, findBatch] at h
  cases named : r.batch.isPresent with
  | true =>
    rw [if_pos named] at h
    dsimp only at h
    split at h
    case h_1 =>
      cases h
      exact .inl same
    case h_2 => cases h
  | false =>
    rw [if_neg (by simp [named])] at h
    by_cases product : r.product.isPresent
    · rw [if_pos product] at h
      cases creation : s.createBatch r.product .none with
      | mk outcome t =>
        rw [creation] at h
        cases outcome with
        | error fault' =>
          cases h
          exact .inl (createBatch_error creation)
        | ok b =>
          dsimp only at h
          split at h
          case h_1 =>
            cases h
            exact .inr ⟨rfl, b, rfl⟩
          case h_2 => cases h
    · rw [if_neg product] at h
      cases h
      exact .inl same

/-- **What a failed request leaves.** A request that names its batch and fails at a site leaves the
files as they were. One that names none leaves them too, or it left the batch that it created: a new
batch without results, beside all batches of other plain names. -/
theorem failed_request {ms : List (String × Json)} {site site' : Site} {fault : Fault}
    (hex : ∀ n, ∀ x ∈ (site.draw n).toList, x ∈ codeDigits)
    (h : Request.run ms site = (.error fault, site')) :
    (∀ r, Request.read ms = .ok r → r.batch.isPresent → site'.disk = site.disk) ∧
      (site'.disk = site.disk ∨ ∃ r options s b t, Request.read ms = .ok r ∧
        r.sessionOptions site = .ok options ∧ site.openSession options = .ok s ∧
        s.createBatch r.product .none = (.ok b, t) ∧ b.New ∧ site'.disk = t.disk ∧
        ∀ id x, s.Names id → id ≠ b.id → s.batch id = .ok x → t.batch id = .ok x) := by
  rw [Request.run] at h
  dsimp only at h
  split at h
  case h_1 =>
    cases h
    exact ⟨fun _ _ _ => rfl, .inl rfl⟩
  case h_2 r s opened =>
    obtain ⟨r', read, e⟩ := bind_eq_ok.1 opened
    obtain ⟨options, chosen, e⟩ := bind_eq_ok.1 e
    obtain ⟨s', started, e⟩ := bind_eq_ok.1 e
    cases pure_eq_ok.1 e
    cases ran : r.runIn s with
    | mk outcome t =>
      rw [ran] at h
      cases h
      obtain ⟨registry, -, e⟩ := bind_eq_ok.1 started
      cases pure_eq_ok.1 e
      rcases Request.runIn_eq_error ran with ⟨codes, rfl⟩ | ⟨unnamed, b, created⟩
      · exact ⟨fun _ _ _ => rfl, .inl rfl⟩
      · obtain ⟨_, _, -, -, -, new, -⟩ := createBatch_steps created
        constructor
        · intro r' read' named
          rw [read] at read'
          cases read'
          rw [unnamed] at named
          cases named
        · refine .inr ⟨r, options, _, b, t, read, chosen, started, created, new, rfl, ?_⟩
          intro id x named other loaded
          refine batch_of_createBatch ?_ created named other loaded
          exact hex

namespace Plate

/-- Where requests are made: there are no files yet. -/
def site : Site where
  disk := .bare ⟨true, ["work"]⟩
  environment := .empty
  now := opened.createdAt
  draw := fun _ => "ab12cd34"
  drawn := 0

/-- A request that asks what an item needs without naming the item. -/
def itemless : List (String × Json) :=
  [("operation", .text "check_dependencies"), ("measurement_id", .text "MSR-AB12CD34"),
    ("config", .record [("product_registry_path", .text "registry"),
      ("batch_store_path", .text "store")])]

/-- A request that names its batch fails, and leaves the files. -/
theorem itemless_leaves_files : ∃ fault site', Request.run itemless site = (.error fault, site') ∧
    site'.disk = site.disk := by
  have hex : ∀ n, ∀ x ∈ (site.draw n).toList, x ∈ codeDigits := fun _ => by
    change ∀ x ∈ "ab12cd34".toList, x ∈ codeDigits
    simp [codeDigits]
  have failed : Request.run itemless site = (.error (.value .itemUnnamed), site) := by rfl
  obtain ⟨named, -⟩ := failed_request hex failed
  exact ⟨_, _, failed, named _ rfl rfl⟩

/-- A request to submit a new batch of plates without any items. -/
def hasty : Request where
  operation := .submit
  items := []
  batch := .null
  product := .text "plate"
  item := .null
  measuredBy := none
  options := []

/-- A new batch cannot be submitted without items. -/
lemma submitBatch_hasty : (session opened).submitBatch opened.id [] none =
    .error (.error (.validation .null .noItems)) := by
  have loaded := batch_session opened
  have found : (session opened).product opened.product = .ok product := product_session opened
  have order : product.evaluationOrder [] = .ok [] := by
    simp [Product.evaluationOrder, Product.placeItems]
  have keys : (addStored product (Table.ofList []) opened.results).keys = [] := by rfl
  simp only [submitBatch, show Submission.parseAll [] = .ok [] by rfl, loaded, found, ok_bind,
    List.map_nil, keys, order]
  rfl

/-- A request may fail and leave a batch that was not there before. -/
theorem failed_request_may_create : ¬∀ (r : Request) (s s' : Session) (fault : Fault),
    r.runIn s = (.error fault, s') → ∀ id b, s'.batch id = .ok b → s.batch id = .ok b := by
  intro same
  have created : hasty.findBatch unopened = (.ok (.text opened.id), session opened) := by rfl
  have failed : hasty.runIn unopened =
      (.error (.error (.validation .null .noItems)), session opened) := by
    have answered : hasty.answer (session opened) opened.id =
        .error (.error (.validation .null .noItems)) := by
      rw [Request.answer, hasty, submitBatch_hasty]
      rfl
    simp only [Request.runIn, created, Json.display, answered]
  cases same _ _ _ _ failed _ _ (batch_session opened)

end Plate

end Inspection
