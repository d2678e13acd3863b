import Inspection.Proofs.Evaluation.Faults
import Inspection.Proofs.Session.Reachable
import Inspection.Proofs.Session.Saving

/-!
# Saving that goes on

Saving keeps the raw data of an item that cannot be evaluated, and goes on. For a product that
passed the checks, and a batch that is open and can be stored, all that ends the saving of readable
submissions is an integer beyond the greatest double in a formula, or a rule whose limits are not in
order (`saveProgress_goes_on`). Both can be in a product that passes the checks.
-/

namespace Inspection

/-- A sequence fails where it comes to an item that fails. -/
lemma exists_of_sequence_eq_error {f : Judging} {c : Context} {order : List String} {fault : Fault}
    (h : sequence f c order = .error fault) : ∃ n ∈ order, ∃ c', f n c' = .error fault := by
  induction order generalizing c with
  | nil => cases h
  | cons n rest ih =>
    rw [sequence] at h
    obtain h | ⟨r, -, h⟩ := bind_eq_error.1 h
    · exact ⟨n, List.mem_cons_self, c, h⟩
    obtain h | ⟨rs, -, h⟩ := bind_eq_error.1 h
    · obtain ⟨m, mem, c', e⟩ := ih h
      exact ⟨m, List.mem_cons_of_mem _ mem, c', e⟩
    · cases h

/-- Keeping an item fails only as its evaluation does, with other than an error. -/
lemma Point.keep_eq_error {p : Point} {x : Submission} {c : Context} {fault : Fault}
    (h : p.keep x c = .error fault) : p.evaluate x c false = .error fault := by
  rw [keep] at h
  split at h
  case isTrue => cases h
  case isFalse =>
    split at h
    case h_1 => cases h
    case h_2 => cases h
    case h_3 evaluated =>
      cases h
      exact evaluated

namespace Session

/-- **Saving goes on.** For a product that passed the checks, an open batch that can be stored, and
readable submissions for distinct items of the product, saving comes to a progress unless a formula
has an integer beyond the greatest double in it, or a limit of a rule is undefined or no number. -/
theorem saveProgress_goes_on {s : Session} {product : Product} {b : Batch} {id : String}
    {items : List Json} {submissions : List Submission} (accepted : product.check = .ok product)
    (loaded : s.batch id = .ok b) (found : s.product b.product = .ok product)
    (isOpen : b.status.isOpen) (storable : s.Storable b.id)
    (read : Submission.parseAll items = .ok submissions)
    (known : ∀ x ∈ submissions, x.item ∈ product.pointNames) :
    (∃ progress s', s.saveProgress id items = .ok (progress, s')) ∨
      (s.saveProgress id items = .error (.overflow .hugeInteger) ∧
        ∃ point ∈ product.points, point.WritesHuge) ∨
      (s.saveProgress id items = .error .undefined ∧
        ∃ point ∈ product.points, point.Unordered) := by
  obtain ⟨-, fine⟩ := Product.issues_of_check accepted
  have sound := Product.sound_of_issues fine
  have points : ∀ n ∈ submissions.map Submission.item, ∃ point, product.point? n = some point := by
    intro n mem
    obtain ⟨x, there, rfl⟩ := List.mem_map.1 mem
    obtain ⟨point, mem, name⟩ := List.mem_map.1 (known x there)
    exact ⟨point, name ▸ Product.point?_of_mem sound.distinct mem⟩
  obtain ⟨order, arranged, e⟩ := saveProgress_eq sound loaded found read isOpen points
  have listed : ∀ n ∈ order, n ∈ (Submission.table submissions).keys :=
    fun n mem => Submission.mem_keys_table.2 (arranged.perm.subset mem)
  rw [e, saving_evaluateAll_eq listed]
  cases judged : sequence (.saving product (Submission.table submissions))
      (s.context b submissions) order with
  | ok rs =>
    obtain ⟨progress, done⟩ : ∃ progress, b.save rs (some
        ((notes product (Submission.table submissions) (s.context b submissions) .empty rs).report
          id b.product)) = .ok progress :=
      ⟨_, Batch.save_eq_ok.2 ⟨isOpen, rfl⟩⟩
    obtain ⟨s', stored⟩ := storable progress.batch (Batch.id_of_save done)
    refine .inl ⟨progress, s', ?_⟩
    simp only [Except.map, ok_bind, List.nil_append, done, Outcome.of, stored]
    rfl
  | error fault =>
    obtain ⟨n, mem, c, failed⟩ := exists_of_sequence_eq_error judged
    obtain ⟨point, there⟩ := points n (arranged.perm.subset mem)
    obtain ⟨mem, -⟩ := Product.point?_eq_some there
    rw [Judging.saving, pointOf_eq_ok.2 there, ok_bind] at failed
    rcases Point.fault_of_evaluate (Product.issues_of_mem fine mem) (Point.keep_eq_error failed)
      with ⟨error, rfl⟩ | ⟨rfl, huge⟩ | ⟨rfl, unordered⟩
    · exact absurd failed Point.keep_ne_error
    · exact .inr (.inl ⟨rfl, point, mem, huge⟩)
    · exact .inr (.inr ⟨rfl, point, mem, unordered⟩)

end Session

namespace Plate

/-- The points of a plate have no formulas, and rules whose limits are in order. -/
lemma in_order {p : Point} (mem : p ∈ product.points) : ¬p.WritesHuge ∧ ¬p.Unordered := by
  have formulas : ∀ p ∈ product.points, p.formulas = [] := by decide
  have limits : ∀ p ∈ product.points, ∀ rule ∈ p.rule, .error .undefined ∉ rule.limits ∧
      .ok .notANumber ∉ rule.limits := by decide
  constructor
  · intro huge
    obtain ⟨text, there, -⟩ := huge
    rw [formulas p mem] at there
    cases there
  · intro unordered
    obtain ⟨rule, given, unordered⟩ := unordered
    obtain ⟨defined, number⟩ := limits p mem rule given
    cases unordered with
    | inl undefined => exact defined undefined
    | inr none => exact number none

/-- The saving of a thickness of a plate goes on. -/
theorem plate_goes_on : product.check = .ok product ∧
    (session opened).product opened.product = .ok product ∧ opened.status.isOpen ∧
    ∃ progress s', (session opened).saveProgress opened.id [document "thickness" [1.0]] =
      .ok (progress, s') := by
  have read : Submission.parseAll [document "thickness" [1.0]] =
      .ok [submission "thickness" [1.0]] := by rfl
  have known : ∀ x ∈ [submission "thickness" [1.0]], x.item ∈ product.pointNames := by decide
  refine ⟨accepted, product_session opened, rfl, ?_⟩
  rcases Session.saveProgress_goes_on accepted (batch_session opened) (product_session opened) rfl
    (storable_session opened _) read known with done | ⟨-, p, mem, huge⟩ | ⟨-, p, mem, unordered⟩
  · exact done
  · exact absurd huge (in_order mem).1
  · exact absurd unordered (in_order mem).2

/-- A plate whose least thickness is no number. -/
def blurred : Product :=
  { product with points := [{ point "thickness" .manual none with
    rule := some ⟨.min, 0.0 / 0.0, "mm", none, none⟩ }] }

/-- A plate is accepted although its least thickness is no number. -/
lemma accepted_blurred : blurred.check = .ok blurred := by
  have keys : blurred.readingGraph.keys = ["thickness"] := by rfl
  have thickness : blurred.readingGraph.find? "thickness" = some [] := by rfl
  have cycle : blurred.readingGraph.cycle? = none := by
    simp [Graph.cycle?, Graph.visitAll, Graph.visit_eq, keys, thickness, Except.map]
  have fine : blurred.issues = [] := by
    simp only [Product.issues, cycle]
    rfl
  rw [Product.check, fine]
  rfl

/-- A session with such plates. -/
def blurring (s : Session) : Session :=
  { s with registry := ⟨⟨true, []⟩, none, .ofList [("plate", blurred)]⟩ }

/-- The session has its batch. -/
lemma batch_blurring (b : Batch) : (blurring (session b)).batch b.id = .ok b := by
  simp [Session.batch, blurring, session, Store.load, Table.ofList]

/-- A batch of such plates can be created. -/
lemma reachable_blurred : opened.Reachable blurred := by
  have created : (blurring unopened).createBatch (.text "plate") .none =
      (.ok opened, blurring (session opened)) := by rfl
  exact .created (by rfl) created

/-- No thickness of such a plate can be saved. -/
lemma saveProgress_blurred : (blurring (session opened)).saveProgress opened.id
    [document "thickness" [1.0]] = .error .undefined := by
  have read : Submission.parseAll [document "thickness" [1.0]] =
      .ok [submission "thickness" [1.0]] := by rfl
  have loaded := batch_blurring opened
  have found : (blurring (session opened)).product opened.product = .ok blurred := rfl
  have keys : (Table.ofList ([submission "thickness" [1.0]].map fun x => (x.item, x))).keys =
      ["thickness"] := by rfl
  have references : blurred.references "thickness" = .ok [] := by rfl
  have order : blurred.evaluationOrder ["thickness"] = .ok ["thickness"] := by
    simp [Product.evaluationOrder, Product.placeItems, Product.placeItem, references]
  simp only [Session.saveProgress, read, loaded, found, keys, order, ok_bind]
  rfl

/-- Saving may stop: the rule of a product that passed the checks can have no answer. -/
theorem saving_may_stop : ¬∀ (s : Session) (p : Product) (b : Batch) (id : String)
    (items : List Json) (submissions : List Submission), p.check = .ok p → b.Reachable p →
      s.batch id = .ok b → s.product b.product = .ok p → b.status.isOpen → s.Storable b.id →
      Submission.parseAll items = .ok submissions → (∀ x ∈ submissions, x.item ∈ p.pointNames) →
        ∃ progress s', s.saveProgress id items = .ok (progress, s') := by
  intro returns
  have read : Submission.parseAll [document "thickness" [1.0]] =
      .ok [submission "thickness" [1.0]] := by rfl
  have known : ∀ x ∈ [submission "thickness" [1.0]], x.item ∈ blurred.pointNames := by decide
  obtain ⟨progress, s', done⟩ := returns (blurring (session opened)) blurred opened opened.id _ _
    accepted_blurred reachable_blurred (batch_blurring opened) rfl rfl
    (Session.storable_memory rfl) read known
  rw [saveProgress_blurred] at done
  cases done

end Plate

end Inspection
