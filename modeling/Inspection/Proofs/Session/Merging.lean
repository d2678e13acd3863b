import Inspection.Proofs.Product.Ordering
import Inspection.Proofs.Session.Answers

/-!
# Savings one after the other

A saving is a `Round`: it works out one result for each of its submissions (`IsRound.perm`), and
puts them in the places of the earlier ones, or behind them (`saveProgress_round`). So after any
savings a batch holds one result for each item that was ever saved, in the order of first being
saved, and it is what the last saving of the item worked out (`Savings.holds`): in memory always,
and in a directory but for numbers that are not finite (`savings_merge`). These are lost there
(`Plate.saved_number_may_be_lost`).
-/

namespace Inspection

/-- The results of a sequence are for its items. -/
lemma items_of_sequence {f : Judging} (own : ∀ {n c r}, f n c = .ok r → r.item = n) {c : Context}
    {order : List String} {rs : List Result} (h : sequence f c order = .ok rs) :
    rs.map Result.item = order := by
  induction order generalizing c rs with
  | nil =>
    obtain rfl := Except.ok.inj h
    rfl
  | cons n rest ih =>
    obtain ⟨r, others, rfl, first, later⟩ := sequence_cons_eq_ok.1 h
    rw [List.map_cons, own first, ih later]

/-- A saving that returned: what was handed in, and the results that were worked out, in the order
in which they were. -/
structure Round where
  submitted : List Submission
  computed : List Result

namespace Round

/-- The items of a round. -/
def items (x : Round) : List String :=
  x.computed.map Result.item

/-- All items of some rounds, one round after the other. -/
def allItems (rounds : List Round) : List String :=
  rounds.flatMap items

/-- What the last round to which an item was submitted worked out for it. -/
def latest? (rounds : List Round) (n : String) : Option Result :=
  (rounds.reverse.find? fun x => n ∈ x.submitted.map Submission.item).bind fun x =>
    x.computed.find? fun r => r.item = n

section

variable {rounds : List Round} {x : Round} (perm : x.items.Perm (x.submitted.map Submission.item))

include perm

/-- After one more round its items have what it worked out for them. -/
lemma latest?_of_mem (distinct : x.items.Nodup) {r : Result} (mem : r ∈ x.computed) :
    latest? (rounds ++ [x]) r.item = some r := by
  have own : r.item ∈ x.submitted.map Submission.item := perm.subset (List.mem_map_of_mem mem)
  rw [latest?, List.reverse_append, List.reverse_singleton, List.singleton_append,
    List.find?_cons, decide_eq_true own]
  exact find?_of_mem distinct mem

/-- After one more round other items have what they had. -/
lemma latest?_of_notMem {n : String} (out : n ∉ x.items) :
    latest? (rounds ++ [x]) n = latest? rounds n := by
  have other : n ∉ x.submitted.map Submission.item := fun mem => out (perm.symm.subset mem)
  rw [latest?, List.reverse_append, List.reverse_singleton, List.singleton_append,
    List.find?_cons, decide_eq_false other]
  rfl

end

end Round

namespace Session

variable {s s' t t' : Session} {b b' : Batch} {id : String} {items : List Json}
  {progress : Progress} {rounds : List Round}

/-- The results that a saving works out for the items of a request, in this order. -/
def computed (s : Session) (id : String) (items : List Json) : Outcome (List Result) := do
  let submissions ← Submission.parseAll items
  let b ← s.batch id
  let product ← s.product b.product
  let byItem := Submission.table submissions
  let order ← Outcome.of (.ofFailure ·) (product.evaluationOrder byItem.keys)
  let saving ← Saving.evaluateAll product byItem ⟨s.context b submissions, .empty, []⟩ order
  return saving.results

/-- A saving of some items as a round: what it reads of them, and what it works out. -/
structure IsRound (s : Session) (id : String) (items : List Json) (x : Round) : Prop where
  submitted : Submission.parseAll items = .ok x.submitted
  computed : s.computed id items = .ok x.computed

/-- A saving is one round only. -/
lemma IsRound.unique {x x' : Round} (h : s.IsRound id items x) (h' : s.IsRound id items x') :
    x = x' := by
  cases x
  cases x'
  exact congrArg₂ Round.mk (Except.ok.inj (h.submitted.symm.trans h'.submitted))
    (Except.ok.inj (h.computed.symm.trans h'.computed))

/-- The results that are kept of items, one after the other, are for these. -/
lemma items_of_evaluateAll {product : Product} {submissions : Table Submission} {c : Context}
    {order : List String} {saving : Saving} (listed : ∀ n ∈ order, n ∈ submissions.keys)
    (kept : Saving.evaluateAll product submissions ⟨c, .empty, []⟩ order = .ok saving) :
    saving.results.map Result.item = order := by
  rw [saving_evaluateAll_eq listed, map_eq_ok] at kept
  obtain ⟨rs, judged, rfl⟩ := kept
  exact items_of_sequence Judging.item_of_saving judged

/-- A round works out one result for each of its submissions. -/
lemma IsRound.perm {x : Round} (h : s.IsRound id items x) :
    x.items.Perm (x.submitted.map Submission.item) := by
  obtain ⟨submissions, read, computed⟩ := bind_eq_ok.1 h.computed
  obtain rfl : x.submitted = submissions := Except.ok.inj (h.submitted.symm.trans read)
  obtain ⟨b, -, computed⟩ := bind_eq_ok.1 computed
  obtain ⟨product, -, computed⟩ := bind_eq_ok.1 computed
  obtain ⟨order, e, computed⟩ := bind_eq_ok.1 computed
  obtain ⟨saving, kept, computed⟩ := bind_eq_ok.1 computed
  have distinct := (Submission.parseAll_eq_ok.1 read).2
  replace e := Outcome.of_eq_ok.1 e
  rw [Submission.keys_table distinct] at e
  have perm := Product.perm_evaluationOrder distinct e
  have listed : ∀ n ∈ order, n ∈ (Submission.table x.submitted).keys :=
    fun n mem => Submission.mem_keys_table.2 (perm.subset mem)
  rw [Round.items, ← pure_eq_ok.1 computed, items_of_evaluateAll listed kept]
  exact perm

/-- A saving that returns is a round, and stores the batch with the results of the round put. -/
lemma saveProgress_round (loaded : s.batch id = .ok b)
    (h : s.saveProgress id items = .ok (progress, s')) :
    ∃ x, s.IsRound id items x ∧ (∃ report, b.save x.computed report = .ok progress) ∧
      s.save progress.batch = .ok s' := by
  obtain ⟨submissions, product, order, saving, read, isOpen, found, e, kept, done, stored⟩ :=
    saveProgress_steps loaded h
  refine ⟨⟨submissions, saving.results⟩, ⟨read, ?_⟩, ⟨_, done⟩, stored⟩
  simp only [computed, read, loaded, found, e, kept, ok_bind, Outcome.of]
  rfl

/-- The session may have gone on in any way that leaves a batch as it is stored. -/
structure Leaves (s s' : Session) (id : String) : Prop where
  batch : s'.batch id = s.batch id
  kind : s'.store.isDirectory = s.store.isDirectory

/-- A call that creates no batch and is for none in the place of a batch leaves it. -/
lemma leaves_of_perform {c : Call} {outcome : Outcome Reply} (own : s.KeepsOwn)
    (h : s.perform c = (outcome, s')) (old : ∀ b, outcome ≠ .ok (.created b))
    (other : ∀ id', c.target? = some id' → s.place? id ≠ s.place? id') : s.Leaves s' id := by
  rcases perform_cases h with ⟨-, codes, rfl⟩ | ⟨_, _, b, -, -, created⟩ |
    ⟨id', target, -, restores⟩
  · exact ⟨rfl, rfl⟩
  · exact absurd created (old b)
  · refine ⟨restores.batch_other own (other id' target), ?_⟩
    obtain ⟨_, _, -, -, stored⟩ := restores
    exact isDirectory_of_save stored

/-- Savings of a batch one after the other, each of which returned. -/
inductive Savings (id : String) (s : Session) : List Round → Session → Prop where
  | start : Savings id s [] s
  | saved {rounds : List Round} {t t' : Session} {items : List Json} {x : Round}
    {progress : Progress} :
    Savings id s rounds t →
    t.IsRound id items x →
    t.saveProgress id items = .ok (progress, t') →
    Savings id s (rounds ++ [x]) t'
  | left {rounds : List Round} {t t' : Session} :
    Savings id s rounds t →
    t.Leaves t' id →
    Savings id s rounds t'

/-- Each round of savings worked out one result for each of its submissions. -/
lemma Savings.perm (savings : s.Savings id rounds t) :
    ∀ x ∈ rounds, x.items.Perm (x.submitted.map Submission.item) := by
  induction savings with
  | start => simp
  | saved _ round _ ih =>
    intro x mem
    rcases List.mem_append.1 mem with old | new
    · exact ih x old
    · rw [List.mem_singleton.1 new]
      exact round.perm
  | left _ _ ih => exact ih

/-- A batch holds what some rounds came to: of each item of a round one result, in the order of
first being saved, and this is what the store returns of the one that was worked out last. -/
structure Holds (t : Session) (id : String) (rounds : List Round) (b : Batch) : Prop where
  id : b.id = id
  distinct : (b.results.map Result.item).Nodup
  items : b.results.map Result.item = (Round.allItems rounds).eraseDups
  latest : ∀ n, Option.Rel t.store.Returns (Round.latest? rounds n) (b.result? n)
  durable : t.store.isDirectory → b.Durable

variable {x : Round} {report : Option Report}

/-- A round works out one result for each item. -/
lemma IsRound.distinct (round : s.IsRound id items x) : x.items.Nodup :=
  round.perm.symm.nodup (Submission.parseAll_eq_ok.1 round.submitted).2

/-- What a store returns of a durable result that a batch holds is the result. -/
lemma result?_of_durable {store : Store} {n : String} (durable : store.isDirectory → b.Durable)
    (returned : Option.Rel store.Returns (b.result? n) (b'.result? n)) :
    b'.result? n = b.result? n := by
  generalize found' : b'.result? n = held' at returned
  cases found : b.result? n with
  | none =>
    rw [found] at returned
    cases returned
    rfl
  | some r =>
    rw [found] at returned
    cases returned with
    | some h =>
      have mem := (Batch.mem_of_result? found).1
      rw [h.eq_iff.2 fun kind => (Batch.durable_iff_results.1 (durable kind)).2 r mem]

namespace Holds

/-- A new batch holds what no rounds come to. -/
lemma of_createBatch {name : Json} {request : BatchRequest}
    (created : s.createBatch name request = (.ok b, s')) (loaded : s'.batch b.id = .ok b') :
    s'.Holds b.id [] b' := by
  obtain ⟨product, codes, -, -, -, new, stored⟩ := createBatch_steps created
  obtain ⟨id, both, durable⟩ := returns_of_save stored loaded
  rw [new.results] at both
  have none : b'.results = [] := List.forall₂_nil_left_iff.1 both
  have kind := isDirectory_of_save stored
  refine ⟨id, by simp [none], by simp [none, Round.allItems], fun n => ?_, kind ▸ durable⟩
  rw [Batch.result?, none]
  exact .none

/-- A batch is saved to under its name. -/
lemma id_of_save (holds : t.Holds id rounds b) (done : b.save x.computed report = .ok progress) :
    progress.batch.id = id :=
  (Batch.id_of_save done).trans holds.id

/-- A batch that is saved to has what the round worked out. -/
lemma result?_of_mem (round : t.IsRound id items x) (done : b.save x.computed report = .ok progress)
    {r : Result} (mem : r ∈ x.computed) : progress.batch.result? r.item = some r := by
  obtain ⟨-, rfl⟩ := Batch.save_eq_ok.1 done
  exact Batch.result?_putAll_of_mem round.distinct mem

/-- A saving leaves what is held of all items but those of its round, also as it is stored. -/
lemma result?_of_notMem (holds : t.Holds id rounds b)
    (done : b.save x.computed report = .ok progress) (stored : t.save progress.batch = .ok t')
    {n : String} (out : n ∉ x.items) : progress.batch.result? n = b.result? n ∧
      ∀ b', t'.batch id = .ok b' → b'.result? n = b.result? n := by
  have own := holds.id_of_save done
  obtain ⟨-, rfl⟩ := Batch.save_eq_ok.1 done
  have kept : (b.putAll x.computed).result? n = b.result? n := Batch.result?_putAll_of_notMem out
  refine ⟨kept, fun b' loaded => result?_of_durable holds.durable ?_⟩
  obtain ⟨-, both, -⟩ := returns_of_save stored (own ▸ loaded)
  rw [← kept]
  exact Batch.result?_rel (fun _ _ h => h.reread.item) both n

/-- The items of a batch that is saved to are those that were saved before, and those of the round
that are new. -/
lemma items_of_save (holds : t.Holds id rounds b)
    (done : b.save x.computed report = .ok progress) :
    progress.batch.results.map Result.item = (Round.allItems (rounds ++ [x])).eraseDups := by
  obtain ⟨-, rfl⟩ := Batch.save_eq_ok.1 done
  rw [Round.allItems, List.flatMap_append, List.flatMap_singleton]
  exact Batch.items_putAll_eraseDups holds.items

/-- After one more round a batch that held what the rounds before came to holds what they all come
to, as far as the store returns it. -/
lemma saved (holds : t.Holds id rounds b) (round : t.IsRound id items x)
    (done : b.save x.computed report = .ok progress) (stored : t.save progress.batch = .ok t')
    (loaded : t'.batch id = .ok b') : t'.Holds id (rounds ++ [x]) b' := by
  have own := holds.id_of_save done
  obtain ⟨same, both, durable⟩ := returns_of_save stored (own ▸ loaded)
  have named := map_of_forall₂ both fun _ _ h => h.reread.item
  have kind := isDirectory_of_save stored
  refine ⟨same.trans own, ?_, named.trans (holds.items_of_save done), fun n => ?_, kind ▸ durable⟩
  · obtain ⟨-, rfl⟩ := Batch.save_eq_ok.1 done
    rw [named]
    exact Batch.distinct_putAll holds.distinct
  · rw [Store.returns_congr kind]
    by_cases mem : n ∈ x.items
    · obtain ⟨r, hr, rfl⟩ := List.mem_map.1 mem
      rw [Round.latest?_of_mem round.perm round.distinct hr,
        ← result?_of_mem round done hr]
      exact Batch.result?_rel (fun _ _ h => h.reread.item) both r.item
    · rw [Round.latest?_of_notMem round.perm mem,
        (holds.result?_of_notMem done stored mem).2 b' loaded]
      exact holds.latest n

end Holds

/-- A batch that is saved to is loaded as it was answered if it is durable where batches are in a
directory; it is if the results of the round are. -/
lemma batch_of_round (holds : t.Holds id rounds b) (round : t.IsRound id items x)
    (done : b.save x.computed report = .ok progress) (stored : t.save progress.batch = .ok t')
    (durable : t.store.isDirectory → ∀ r ∈ x.computed, r.Durable) :
    t'.batch id = .ok progress.batch := by
  rw [← holds.id_of_save done, batch_of_save stored]
  intro root place
  have kind : t.store.isDirectory := by rw [place]; rfl
  obtain ⟨short, own⟩ := Batch.durable_iff_results.1 (holds.durable kind)
  obtain ⟨-, rfl⟩ := Batch.save_eq_ok.1 done
  refine Batch.durable_iff_results.2 ⟨?_, fun r mem => ?_⟩
  · dsimp only
    rw [Batch.putAll_eq]
    exact short
  · rcases (Batch.mem_putAll holds.distinct round.distinct).1 mem with new | ⟨old, -⟩
    · exact durable kind r new
    · exact own r old

section

variable {name : Json} {request : BatchRequest} {s₀ : Session}
  (created : s₀.createBatch name request = (.ok b, s)) (savings : s.Savings b.id rounds t)

include created savings

/-- After any savings the stored batch holds what they come to. -/
theorem Savings.holds (loaded : t.batch b.id = .ok b') : t.Holds b.id rounds b' := by
  induction savings generalizing b' with
  | start => exact .of_createBatch created loaded
  | saved _ round h ih =>
    obtain ⟨before, loaded'⟩ := batch_of_saveProgress h
    obtain ⟨x', round', ⟨report, done⟩, stored⟩ := saveProgress_round loaded' h
    obtain rfl := round'.unique round
    exact (ih loaded').saved round done stored loaded
  | left _ leaves ih =>
    have holds := ih (leaves.batch ▸ loaded)
    exact { holds with
      latest := fun n => by
        rw [Store.returns_congr leaves.kind]
        exact holds.latest n
      durable := leaves.kind ▸ holds.durable }

/-- After any savings the batch can be loaded, from a directory if it was durable when it was
created and what they worked out is. -/
lemma Savings.loads (durable : t.store.isDirectory →
      b.Durable ∧ ∀ x ∈ rounds, ∀ r ∈ x.computed, r.Durable) : ∃ b', t.batch b.id = .ok b' := by
  induction savings with
  | start =>
    obtain ⟨product, codes, -, -, -, -, stored⟩ := createBatch_steps created
    have kind := isDirectory_of_save stored
    refine ⟨b, (batch_of_save stored).2 fun root place => (durable ?_).1⟩
    rw [kind, place]
    rfl
  | @saved rounds t t' items x progress before round h ih =>
    obtain ⟨held, loaded⟩ := batch_of_saveProgress h
    obtain ⟨x', round', ⟨report, done⟩, stored⟩ := saveProgress_round loaded h
    obtain rfl := round'.unique round
    have kind := isDirectory_of_save stored
    refine ⟨_, batch_of_round (before.holds created loaded) round done stored fun directory => ?_⟩
    exact (durable (kind.trans directory)).2 x' (by simp)
  | @left rounds t t' _ leaves ih =>
    rw [leaves.batch]
    exact ih (leaves.kind ▸ durable)

end

/-- **Savings are merged.** After any savings of a batch that was created it holds, wherever it can
be loaded, one result for each item that was ever saved, in the order of first being saved; and this
is the result that was worked out by the last saving to which the item was submitted, but for
numbers that are lost in a directory where the result is not durable. One more saving that returns
answers with what it worked out, counts the items that were ever saved, and leaves what is stored of
all other items. The batch can be loaded if it is in memory, or if all of it is durable. -/
theorem savings_merge {s₀ s t : Session} {name : Json} {request : BatchRequest} {b : Batch}
    {rounds : List Round} (created : s₀.createBatch name request = (.ok b, s))
    (savings : s.Savings b.id rounds t) :
    (∀ x ∈ rounds, x.items.Perm (x.submitted.map Submission.item)) ∧
    ((t.store.isDirectory → b.Durable ∧ ∀ x ∈ rounds, ∀ r ∈ x.computed, r.Durable) →
      ∃ b', t.batch b.id = .ok b') ∧
    ∀ b', t.batch b.id = .ok b' →
      (b'.results.map Result.item).Nodup ∧
      b'.results.map Result.item = (Round.allItems rounds).eraseDups ∧
      (∀ n ∈ Round.allItems rounds, ∃ r r', Round.latest? rounds n = some r ∧
        b'.result? n = some r' ∧ r.Reread r' ∧ (r' = r ↔ (t.store.isDirectory → r.Durable))) ∧
      ∀ items progress u, t.saveProgress b.id items = .ok (progress, u) →
        ∃ x, t.IsRound b.id items x ∧ x.items.Perm (x.submitted.map Submission.item) ∧
          progress.total = (Round.allItems (rounds ++ [x])).eraseDups.length ∧
          (∀ r ∈ x.computed, progress.batch.result? r.item = some r) ∧
          ∀ n ∉ x.items, progress.batch.result? n = b'.result? n ∧
            ∀ b'', u.batch b.id = .ok b'' → b''.result? n = b'.result? n := by
  refine ⟨savings.perm, savings.loads created, fun b' loaded => ?_⟩
  have holds := savings.holds created loaded
  refine ⟨holds.distinct, holds.items, fun n mem => ?_, fun items progress u h => ?_⟩
  · have there : n ∈ b'.results.map Result.item := by
      rw [holds.items, List.mem_eraseDups]
      exact mem
    obtain ⟨r', hr, rfl⟩ := List.mem_map.1 there
    have found := Batch.result?_of_mem holds.distinct hr
    have returned := holds.latest r'.item
    rw [found] at returned
    cases last : Round.latest? rounds r'.item with
    | none =>
      rw [last] at returned
      cases returned
    | some r =>
      rw [last] at returned
      cases returned with
      | some h => exact ⟨r, r', rfl, found, h.reread, h.eq_iff⟩
  · obtain ⟨x, round, ⟨report, done⟩, stored⟩ := saveProgress_round loaded h
    refine ⟨x, round, round.perm, ?_, fun r mem => Holds.result?_of_mem round done mem,
      fun n out => holds.result?_of_notMem done stored out⟩
    rw [Progress.total, ← holds.items_of_save done, List.length_map]

end Session

namespace Plate

open Session

/-- The thickness and its copy are saved first. -/
def firstRound : Round :=
  ⟨[submission "thickness" [1.0], submission "copy" []], [good "thickness" 1.0, good "copy" 1.0]⟩

/-- The thickness is saved again. -/
def secondRound : Round :=
  ⟨[submission "thickness" [2.0]], [good "thickness" 2.0]⟩

/-- What is handed in first. -/
def firstItems : List Json := [document "thickness" [1.0], document "copy" []]

/-- What is handed in then. -/
def secondItems : List Json := [document "thickness" [2.0]]

/-- A batch of plates whose thickness was saved again. -/
def resaved : Batch :=
  { saved with results := [good "thickness" 2.0, good "copy" 1.0] }

/-- A thickness alone is evaluated alone. -/
lemma evaluationOrder_thickness : product.evaluationOrder ["thickness"] = .ok ["thickness"] := by
  have thickness : product.references "thickness" = .ok [] := by rfl
  simp [Product.evaluationOrder, Product.placeItems, Product.placeItem, thickness]

/-- The first saving of plates. -/
lemma saved_first : (session opened).IsRound opened.id firstItems firstRound ∧
    ∃ progress, (session opened).saveProgress opened.id firstItems =
      .ok (progress, session saved) := by
  have read : Submission.parseAll firstItems = .ok firstRound.submitted := by rfl
  have loaded := batch_session opened
  have found : (session opened).product opened.product = .ok product := product_session opened
  have keys : (Table.ofList (firstRound.submitted.map fun x => (x.item, x))).keys =
      ["thickness", "copy"] := by rfl
  refine ⟨⟨read, ?_⟩, ?_⟩
  · simp only [computed, read, loaded, found, Submission.table, keys, evaluationOrder_product,
      ok_bind]
    rfl
  · simp only [saveProgress, read, loaded, found, keys, evaluationOrder_product, ok_bind]
    exact ⟨_, rfl⟩

/-- The second saving of plates. -/
lemma saved_second : (session saved).IsRound saved.id secondItems secondRound ∧
    ∃ progress, (session saved).saveProgress saved.id secondItems =
      .ok (progress, session resaved) := by
  have read : Submission.parseAll secondItems = .ok secondRound.submitted := by rfl
  have loaded := batch_session saved
  have found : (session saved).product saved.product = .ok product := product_session saved
  have keys : (Table.ofList (secondRound.submitted.map fun x => (x.item, x))).keys =
      ["thickness"] := by rfl
  refine ⟨⟨read, ?_⟩, ?_⟩
  · simp only [computed, read, loaded, found, Submission.table, keys, evaluationOrder_thickness,
      ok_bind]
    rfl
  · simp only [saveProgress, read, loaded, found, keys, evaluationOrder_thickness, ok_bind]
    exact ⟨_, rfl⟩

/-- Between the savings of plates it is asked what a check needs. -/
lemma leaves_asked : (session saved).Leaves (session saved) saved.id := by
  obtain ⟨missing, asked⟩ : ∃ missing, (session saved).perform
      (.dependencies saved.id (.text "check") []) = (.ok (.missing missing), session saved) :=
    ⟨_, rfl⟩
  have own : (session saved).KeepsOwn := by
    refine keepsOwn_memory (by rfl) fun id b found => ?_
    rw [Table.find?_eq_some, Table.entries_ofList (by decide)] at found
    cases List.mem_singleton.1 found
    rfl
  exact leaves_of_perform own asked nofun nofun

/-- A batch of plates to which the thickness was saved twice holds the later one, and the copy of
the earlier one. -/
theorem savings_merge_plates : ∃ t b',
    (session opened).Savings opened.id [firstRound, secondRound] t ∧
    t.batch opened.id = .ok b' ∧ b'.results.map Result.item = ["thickness", "copy"] ∧
    b'.result? "thickness" = some (good "thickness" 2.0) ∧
    b'.result? "copy" = some (good "copy" 1.0) := by
  obtain ⟨first, _, done⟩ := saved_first
  obtain ⟨second, _, done'⟩ := saved_second
  have savings : (session opened).Savings opened.id [firstRound, secondRound] (session resaved) :=
    ((Savings.saved .start first done).left leaves_asked).saved second done'
  have merged := (savings_merge createBatch_opened savings).2.2 resaved (batch_session resaved)
  obtain ⟨-, items, latest, -⟩ := merged
  have kept : ∀ n r, n ∈ Round.allItems [firstRound, secondRound] →
      Round.latest? [firstRound, secondRound] n = some r → resaved.result? n = some r := by
    intro n r mem last
    obtain ⟨r₁, r₂, last', found, -, same⟩ := latest n mem
    obtain rfl : r = r₁ := Option.some.inj (last.symm.trans last')
    obtain rfl : r₂ = r := same.2 nofun
    exact found
  refine ⟨session resaved, resaved, savings, batch_session resaved, items.trans (by decide),
    kept _ _ (by decide) (by rfl), kept _ _ (by decide) (by rfl)⟩

/-- An infinite thickness is saved. -/
def immenseRound : Round :=
  ⟨[submission "thickness" [Number.infinity]], immense.results⟩

/-- The first batch of plates with an infinite thickness, as it is read back. -/
def immenseBack : Batch :=
  { immense with
    results := [⟨"thickness", .perSample, some false, .empty, [],
      [⟨⟨opened.sampleCount, none, none, none⟩, some false, none, []⟩], none, []⟩] }

/-- A saving that leaves the first batch of plates with an infinite thickness is that round. -/
lemma isRound_immense {s s' : Session} {progress : Progress}
    (loaded : s.batch opened.id = .ok opened) (held : progress.batch = immense)
    (done : s.saveProgress opened.id [document "thickness" [Number.infinity]] =
      .ok (progress, s')) :
    s.IsRound opened.id [document "thickness" [Number.infinity]] immenseRound := by
  obtain ⟨x, round, ⟨report, put⟩, -⟩ := saveProgress_round loaded done
  have read : Submission.parseAll [document "thickness" [Number.infinity]] =
      .ok immenseRound.submitted := by rfl
  have submitted : x.submitted = immenseRound.submitted :=
    Except.ok.inj (round.submitted.symm.trans read)
  have named : x.items.Perm ["thickness"] := by
    have perm := round.perm
    rwa [submitted] at perm
  -- the one result that was worked out is the one that the batch holds
  obtain ⟨r, only, -⟩ := List.map_eq_singleton_iff.1 (List.perm_singleton.1 named)
  obtain ⟨-, rfl⟩ := Batch.save_eq_ok.1 put
  refine ⟨read, round.computed.trans (congrArg _ ?_)⟩
  rw [immenseRound, ← held, only]
  rfl

/-- A saved number may be lost: of a batch in a directory to which an infinite thickness was saved
the thickness is loaded without it. -/
theorem saved_number_may_be_lost : ¬∀ (p : Product) (s₀ s t : Session) (name : Json)
    (request : BatchRequest) (b b' : Batch) (rounds : List Round) (n : String) (r : Result),
      p.check = .ok p → s₀.registry.registered = .ofList [(p.id, p)] → s₀.disk.entries = .empty →
      s₀.createBatch name request = (.ok b, s) → s.Savings b.id rounds t →
      t.batch b.id = .ok b' → Round.latest? rounds n = some r → b'.result? n = some r := by
  intro kept
  obtain ⟨s, stored⟩ := save_shelf 2
  have loaded : s.batch opened.id = .ok opened :=
    (batch_of_save stored).2 fun _ _ => by decide
  have found : s.product opened.product = .ok product := by
    rw [Session.product, registry_of_save stored]
    rfl
  obtain ⟨t, stored'⟩ := storable_again stored immense rfl
  obtain ⟨progress, held, done⟩ :=
    saveProgress_immense loaded found (fallback_of_save stored) stored'
  have savings : s.Savings opened.id [immenseRound] t :=
    .saved .start (isRound_immense loaded held done) done
  have place : s.store = .directory ⟨true, ["shelf"]⟩ := by
    obtain ⟨_, _, -, -, -, -, place, -⟩ := save_directory rfl stored
    exact place
  have back : t.batch opened.id = .ok immenseBack :=
    (batch_of_save_directory place stored').2 ⟨_, rfl, rfl⟩
  have whole := kept product (shelf 0) s t _ _ opened immenseBack _ "thickness" _ accepted rfl rfl
    (createBatch_shelf stored) savings back rfl
  exact absurd whole (by decide)

end Plate

end Inspection
