import Inspection.Proofs.Product.Soundness
import Mathlib.Order.WellFounded

/-!
# Arrangements of items

The order in which the items of a request are evaluated. An order of items is an `Arrangement` if it
holds each of them once, and none before an item that it reads. What the placing of items keeps is
`Placed`: each item stands behind all that it reads. In a product without circles an item on the
trail is never read again (`Sound.not_leadsTo_self`), so every item asked for is placed
(`Sound.placed_place`), and the order of evaluation is an arrangement
(`Sound.arrangement_evaluationOrder`).
-/

namespace Inspection.Product

/-- An item reads another one, directly or through others. -/
def LeadsTo (p : Product) : String → String → Prop :=
  Relation.TransGen fun a b => b ∈ p.reads a

/-- An order of items in which each comes after those that it reads. -/
structure Arrangement (p : Product) (items order : List String) : Prop where
  perm : order.Perm items
  after : order.Pairwise fun a b => b ∉ p.reads a

/-- No item of a sound product leads to itself. -/
lemma Sound.not_leadsTo_self {p : Product} (sound : p.Sound) (item : String) :
    ¬p.LeadsTo item item := by
  intro leads
  have back : Relation.TransGen (fun b a => b ∈ p.reads a) item item :=
    Relation.transGen_swap.2 leads
  exact sound.acyclic.transGen.irrefl.irrefl item back

/-- No item of a sound product reads itself. -/
lemma Sound.not_reads_self {p : Product} (sound : p.Sound) (item : String) :
    item ∉ p.reads item :=
  fun mem => sound.not_leadsTo_self item (.single mem)

/-- The first item of an arrangement reads none of its items. -/
lemma Sound.notMem_of_after {p : Product} (sound : p.Sound) {item : String} {rest : List String}
    (after : ∀ b ∈ rest, b ∉ p.reads item) : ∀ b ∈ p.reads item, b ∉ item :: rest := by
  intro b read mem
  rcases List.mem_cons.1 mem with rfl | mem
  · exact sound.not_reads_self _ read
  · exact after b mem read

/-- Wanted items each of which stands behind the wanted items that it reads. -/
inductive Placed (p : Product) (wanted : List String) : List String → Prop where
  | nil : Placed p wanted []
  | snoc {ordered item} :
    (∀ b ∈ p.reads item, b ∈ wanted → b ∈ ordered) →
    item ∈ wanted →
    item ∉ ordered →
    Placed p wanted ordered →
    Placed p wanted (ordered ++ [item])

namespace Placed

variable {p : Product} {wanted ordered : List String}

/-- What is placed is wanted. -/
lemma subset (pl : Placed p wanted ordered) : ordered ⊆ wanted := by
  induction pl with
  | nil => exact List.nil_subset _
  | snoc _ mem _ _ ih =>
    intro a ha
    rcases List.mem_append.1 ha with old | new
    · exact ih old
    · rwa [List.mem_singleton.1 new]

/-- Nothing is placed twice. -/
lemma nodup (pl : Placed p wanted ordered) : ordered.Nodup := by
  induction pl with
  | nil => exact List.nodup_nil
  | snoc _ _ new _ ih =>
    rw [List.nodup_append]
    refine ⟨ih, List.nodup_singleton _, ?_⟩
    rintro a ha b hb rfl
    exact new (List.mem_singleton.1 hb ▸ ha)

/-- What a placed item reads is placed, if it is wanted. -/
lemma closed (pl : Placed p wanted ordered) {a b : String} (ha : a ∈ ordered)
    (read : b ∈ p.reads a) (hb : b ∈ wanted) : b ∈ ordered := by
  induction pl with
  | nil => cases ha
  | snoc behind _ _ _ ih =>
    rcases List.mem_append.1 ha with old | new
    · exact List.mem_append_left _ (ih old)
    · rw [List.mem_singleton.1 new] at read
      exact List.mem_append_left _ (behind b read hb)

/-- No item is placed before one that it reads. -/
lemma pairwise (pl : Placed p wanted ordered) : ordered.Pairwise fun a b => b ∉ p.reads a := by
  induction pl with
  | nil => exact .nil
  | snoc _ mem new pl ih =>
    rw [List.pairwise_append]
    refine ⟨ih, List.pairwise_singleton _ _, ?_⟩
    rintro a ha b hb read
    rw [List.mem_singleton.1 hb] at read
    exact new (pl.closed ha read mem)

end Placed

/-- What comes of placing: nothing that was placed is lost, and nothing on the trail is added. -/
structure Extends (p : Product) (wanted trail ordered ordered' : List String) : Prop where
  placed : Placed p wanted ordered'
  more : ordered ⊆ ordered'
  trailing : ∀ t ∈ trail, t ∈ ordered' → t ∈ ordered

/-- An item that all on the trail lead to is placed if it is wanted. -/
def PlacesItem (p : Product) (wanted trail ordered : List String) (item : String) : Prop :=
  (∀ t ∈ trail, p.LeadsTo t item) → Placed p wanted ordered →
    ∃ ordered', p.placeItem wanted trail ordered item = .ok ordered' ∧
      Extends p wanted trail ordered ordered' ∧ (item ∈ wanted → item ∈ ordered')

/-- Of items that all on the trail lead to those that are wanted are placed. -/
def PlacesItems (p : Product) (wanted trail ordered items : List String) : Prop :=
  (∀ t ∈ trail, ∀ item ∈ items, p.LeadsTo t item) → Placed p wanted ordered →
    ∃ ordered', p.placeItems wanted trail ordered items = .ok ordered' ∧
      Extends p wanted trail ordered ordered' ∧ ∀ item ∈ items, item ∈ wanted → item ∈ ordered'

/-- All on the trail to an item, and the item itself, lead to what it reads. -/
lemma leadsTo_of_trail {p : Product} {trail : List String} {item : String}
    (leads : ∀ t ∈ trail, p.LeadsTo t item) :
    ∀ t ∈ trail ++ [item], ∀ b ∈ p.reads item, p.LeadsTo t b := by
  intro t mem b read
  rcases List.mem_append.1 mem with old | own
  · exact (leads t old).tail read
  · rw [List.mem_singleton.1 own]
    exact .single read

/-- An item goes behind what it reads. -/
lemma Extends.snoc {p : Product} {wanted trail ordered ordered' : List String} {item : String}
    (new : item ∈ wanted ∧ item ∉ trail ∧ item ∉ ordered)
    (ext : Extends p wanted (trail ++ [item]) ordered ordered')
    (behind : ∀ b ∈ p.reads item, b ∈ wanted → b ∈ ordered') :
    Extends p wanted trail ordered (ordered' ++ [item]) where
  placed := .snoc behind new.1 (fun there =>
    new.2.2 (ext.trailing item (List.mem_append_right _ List.mem_cons_self) there)) ext.placed
  more := fun _ mem => List.mem_append_left _ (ext.more mem)
  trailing t ht there := by
    rcases List.mem_append.1 there with old | last
    · exact ext.trailing t (List.mem_append_left _ ht) old
    · exact absurd (List.mem_singleton.1 last ▸ ht) new.2.1

/-- Placing items of a sound product places all that are wanted. -/
lemma Sound.placed_place {p : Product} (sound : p.Sound) (wanted : List String) :
    (∀ trail ordered item, PlacesItem p wanted trail ordered item) ∧
    (∀ trail ordered items, PlacesItems p wanted trail ordered items) := by
  have told := references_eq_ok sound.points
  apply placeItem.mutual_induct p wanted (PlacesItem p wanted) (PlacesItems p wanted)
  -- what a sound product's item reads can be told
  · intro trail ordered item _ failure failed
    rw [told item] at failed
    cases failed
  -- a new item is placed after what it reads
  · intro trail ordered item new items read ordered₁ placed ih leads pl
    obtain rfl : p.reads item = items := Except.ok.inj ((told item).symm.trans read)
    obtain ⟨ordered', e, ext, mem⟩ := ih (leadsTo_of_trail leads) pl
    obtain rfl : ordered₁ = ordered' := Except.ok.inj (placed.symm.trans e)
    refine ⟨ordered₁ ++ [item], ?_, ext.snoc new mem, fun _ => ?_⟩
    · rw [placeItem, dif_pos new, told item]
      simp only [placed]
    · exact List.mem_append_right _ List.mem_cons_self
  · intro trail ordered item new items read failure failed ih leads pl
    obtain rfl : p.reads item = items := Except.ok.inj ((told item).symm.trans read)
    obtain ⟨ordered', e, -⟩ := ih (leadsTo_of_trail leads) pl
    rw [failed] at e
    cases e
  -- nothing is placed: an item that is wanted is there already, as it cannot be on the trail
  · intro trail ordered item old leads pl
    refine ⟨ordered, ?_, ⟨pl, List.Subset.refl _, fun _ _ h => h⟩, ?_⟩
    · rw [placeItem, dif_neg old]
    · intro mem
      by_contra out
      have on : item ∈ trail := by
        by_contra off
        exact old ⟨mem, off, out⟩
      exact sound.not_leadsTo_self item (leads item on)
  · intro trail ordered _ pl
    refine ⟨ordered, ?_, ⟨pl, List.Subset.refl _, fun _ _ h => h⟩, by simp⟩
    rw [placeItems]
  -- the first item is placed, and then the others
  · intro trail ordered item rest ordered₁ first ih₁ ih₂ leads pl
    obtain ⟨ordered', e, ext₁, mem₁⟩ :=
      ih₁ (fun t ht => leads t ht item List.mem_cons_self) pl
    obtain rfl : ordered₁ = ordered' := Except.ok.inj (first.symm.trans e)
    obtain ⟨ordered₂, e₂, ext₂, mem₂⟩ :=
      ih₂ (fun t ht i hi => leads t ht i (List.mem_cons_of_mem _ hi)) ext₁.placed
    refine ⟨ordered₂, ?_, ⟨ext₂.placed, List.Subset.trans ext₁.more ext₂.more, ?_⟩, ?_⟩
    · rw [placeItems, first]
      exact e₂
    · exact fun t ht there => ext₁.trailing t ht (ext₂.trailing t ht there)
    · intro i hi wantedI
      rcases List.mem_cons.1 hi with rfl | hi
      · exact ext₂.more (mem₁ wantedI)
      · exact mem₂ i hi wantedI
  · intro trail ordered item rest failure failed ih leads pl
    obtain ⟨ordered', e, -⟩ := ih (fun t ht => leads t ht item List.mem_cons_self) pl
    rw [failed] at e
    cases e

/-- The order of evaluation of a sound product's items is an arrangement. -/
theorem Sound.arrangement_evaluationOrder {p : Product} (sound : p.Sound) {items : List String}
    (distinct : items.Nodup) :
    ∃ order, p.evaluationOrder items = .ok order ∧ p.Arrangement items order := by
  obtain ⟨order, e, ext, mem⟩ := (sound.placed_place items).2 [] [] items (by simp) .nil
  refine ⟨order, e, ?_, ext.placed.pairwise⟩
  rw [List.perm_ext_iff_of_nodup ext.placed.nodup distinct]
  exact fun a => ⟨fun h => ext.placed.subset h, fun h => mem a h h⟩

end Inspection.Product
