import Inspection.Proofs.Product.Arrangement

/-!
# The order of evaluation

Placing items puts each of them once behind those placed before, and with it only items that it
leads to (`grows_place`). It comes to an end where it can be told what items read (`place_eq_ok`),
also where they read one another in a circle. In a product without circles each item stands behind
those that it reads (`Placed.after`). And an item that has moved before one that was asked for
earlier is read, directly or through others, by that one or by one before it
(`leadsWithin_of_overtaking`). So the order of evaluation is a permutation that keeps the given
order as far as the reading lets it (`evaluationOrder_ordered`).
-/

namespace Inspection

/-- One item stands before another one in a list. -/
def Before (items : List String) (a b : String) : Prop :=
  [a, b].Sublist items

/-- What stands in the first part of a list stands before what stands in the second. -/
lemma before_append {front back : List String} {a b : String} (ha : a ∈ front) (hb : b ∈ back) :
    Before (front ++ back) a b :=
  (List.singleton_sublist.2 ha).append (List.singleton_sublist.2 hb)

/-- Where one item stands before another, the list has two parts with one of them in each. -/
lemma Before.parts {items : List String} {a b : String} (before : Before items a b) :
    ∃ front back, items = front ++ back ∧ a ∈ front ∧ b ∈ back := by
  obtain ⟨front, back, e, ha, hb⟩ := List.cons_sublist_iff.1 before
  exact ⟨front, back, e, ha, List.singleton_sublist.1 hb⟩

/-- Of two items in a list without repetition only one stands before the other. -/
lemma Before.asymm {items : List String} (distinct : items.Nodup) {a b : String}
    (before : Before items a b) : ¬Before items b a := by
  intro after
  obtain ⟨front, back, rfl, ha, hb⟩ := before.parts
  have apart := List.disjoint_of_nodup_append distinct
  obtain ⟨l₁, l₂, e, sub₁, sub₂⟩ := List.sublist_append_iff.1 after
  cases l₁ with
  | nil =>
    have mem : a ∈ l₂ := by
      rw [← List.nil_append l₂, ← e]
      simp
    exact apart ha (sub₂.subset mem)
  | cons c rest =>
    obtain ⟨rfl, -⟩ := List.cons.inj e
    exact apart (sub₁.subset List.mem_cons_self) hb

namespace Product

/-- Through some items, an item reads another one of them, directly or through others of them. -/
def LeadsWithin (p : Product) (items : List String) : String → String → Prop :=
  Relation.TransGen fun a b => b ∈ p.reads a ∧ b ∈ items

/-- The formulas in which points may average other items can be read. -/
def Readable (p : Product) : Prop :=
  ∀ point ∈ p.points, ∀ text ∈ point.averagingFormulas, ∃ r, Formula.references text = .ok r

/-- Where formulas can be read, so can what any item reads be told. -/
lemma Readable.references_eq_ok {p : Product} (readable : p.Readable) (item : String) :
    p.references item = .ok (p.reads item) := by
  rw [reads]
  cases found : p.point? item with
  | none => simp [references, found, Except.toOption]
  | some point =>
    obtain ⟨rs, all⟩ := mapM_of_forall fun text mem => by
      obtain ⟨r, read⟩ := readable point (point?_eq_some found).1 text mem
      exact ⟨r, Formula.referencesOf_eq_ok.2 read⟩
    rw [references_of_point? found, Point.itemReferences, all]
    rfl

/-- What stands behind more is placed behind what stands in front of it. -/
lemma Placed.after {p : Product} {wanted ordered : List String} (pl : Placed p wanted ordered)
    {a b : String} (ha : a ∈ ordered) (read : b ∈ p.reads a) (hb : b ∈ wanted) :
    Before ordered b a := by
  induction pl with
  | nil => cases ha
  | snoc behind _ _ _ ih =>
    rcases List.mem_append.1 ha with old | new
    · exact (ih old).trans (List.sublist_append_left _ _)
    · rw [List.mem_singleton.1 new] at read ⊢
      exact before_append (behind b read hb) List.mem_cons_self

/-- What comes of placing some items: those that were placed stay where they were, behind them each
is placed once, and none but wanted items that the items to be placed lead to. -/
structure Grows (p : Product) (wanted trail ordered items ordered' : List String) : Prop where
  before : ordered <+: ordered'
  distinct : ordered.Nodup → ordered'.Nodup
  origin : ∀ a ∈ ordered', a ∈ ordered ∨ a ∈ wanted ∧ a ∉ trail ∧ ∃ item ∈ items, item ∈ wanted ∧
    Relation.ReflTransGen (fun a b => b ∈ p.reads a ∧ b ∈ wanted) item a
  placed : ∀ item ∈ items, item ∈ wanted → item ∉ trail → item ∈ ordered'

namespace Grows

variable {p : Product} {wanted trail ordered ordered₁ ordered₂ rest : List String} {item : String}

/-- Where there is nothing to place, nothing is. -/
lemma nil : Grows p wanted trail ordered [] ordered where
  before := List.prefix_refl _
  distinct := fun distinct => distinct
  origin := fun _ mem => .inl mem
  placed := by simp

/-- An item that is not wanted, is placed or is being placed is passed over. -/
lemma pass (old : ¬(item ∈ wanted ∧ item ∉ trail ∧ item ∉ ordered)) :
    Grows p wanted trail ordered [item] ordered where
  before := List.prefix_refl _
  distinct := fun distinct => distinct
  origin := fun _ mem => .inl mem
  placed := by
    intro item' mem want off
    obtain rfl := List.mem_singleton.1 mem
    by_contra out
    exact old ⟨want, off, out⟩

/-- A new item is placed behind what it reads. -/
lemma snoc (new : item ∈ wanted ∧ item ∉ trail ∧ item ∉ ordered)
    (grows : Grows p wanted (trail ++ [item]) ordered (p.reads item) ordered₁) :
    Grows p wanted trail ordered [item] (ordered₁ ++ [item]) where
  before := grows.before.trans (List.prefix_append _ _)
  distinct := by
    intro distinct
    have out : item ∉ ordered₁ := by
      intro mem
      rcases grows.origin item mem with old | ⟨-, off, -⟩
      · exact new.2.2 old
      · exact off (List.mem_append_right _ List.mem_cons_self)
    exact List.nodup_append.2 ⟨grows.distinct distinct, List.nodup_singleton _,
      fun a ha b hb e => out (List.mem_singleton.1 hb ▸ e ▸ ha)⟩
  origin := by
    intro a mem
    rcases List.mem_append.1 mem with mem | last
    · rcases grows.origin a mem with old | ⟨want, off, read, hr, wantRead, leads⟩
      · exact .inl old
      · refine .inr ⟨want, fun on => off (List.mem_append_left _ on), item, List.mem_cons_self,
          new.1, ?_⟩
        exact .head ⟨hr, wantRead⟩ leads
    · obtain rfl := List.mem_singleton.1 last
      exact .inr ⟨new.1, new.2.1, a, List.mem_cons_self, new.1, .refl⟩
  placed := by
    intro item' mem _ _
    exact List.mem_append_right _ mem

/-- Items are placed one after the other. -/
lemma cons (first : Grows p wanted trail ordered [item] ordered₁)
    (later : Grows p wanted trail ordered₁ rest ordered₂) :
    Grows p wanted trail ordered (item :: rest) ordered₂ where
  before := first.before.trans later.before
  distinct := fun distinct => later.distinct (first.distinct distinct)
  origin := by
    intro a mem
    rcases later.origin a mem with mem | ⟨want, off, root, hr, leads⟩
    · rcases first.origin a mem with old | ⟨want, off, root, hr, leads⟩
      · exact .inl old
      · obtain rfl := List.mem_singleton.1 hr
        exact .inr ⟨want, off, root, List.mem_cons_self, leads⟩
    · exact .inr ⟨want, off, root, List.mem_cons_of_mem _ hr, leads⟩
  placed := by
    intro item' mem want off
    rcases List.mem_cons.1 mem with rfl | mem
    · exact later.before.subset (first.placed item' List.mem_cons_self want off)
    · exact later.placed item' mem want off

end Grows

/-- The order grows by placing an item. -/
def GrowsItem (p : Product) (wanted trail ordered : List String) (item : String) : Prop :=
  ∀ ordered', p.placeItem wanted trail ordered item = .ok ordered' →
    Grows p wanted trail ordered [item] ordered'

/-- The order grows by placing items. -/
def GrowsItems (p : Product) (wanted trail ordered items : List String) : Prop :=
  ∀ ordered', p.placeItems wanted trail ordered items = .ok ordered' →
    Grows p wanted trail ordered items ordered'

/-- The order grows by placing items, also where they read one another in a circle. -/
lemma grows_place (p : Product) (wanted : List String) :
    (∀ trail ordered item, GrowsItem p wanted trail ordered item) ∧
    (∀ trail ordered items, GrowsItems p wanted trail ordered items) := by
  apply placeItem.mutual_induct p wanted (GrowsItem p wanted) (GrowsItems p wanted)
  · intro trail ordered item new failure failed ordered' h
    rw [placeItem, dif_pos new, failed] at h
    cases h
  -- a new item is placed after what it reads
  · intro trail ordered item new items told ordered₁ placed ih ordered' h
    have read : p.reads item = items := by rw [reads, told]; rfl
    rw [placeItem, dif_pos new, told] at h
    simp only [placed] at h
    obtain rfl := Except.ok.inj h
    exact .snoc new (read ▸ ih ordered₁ placed)
  · intro trail ordered item new items told failure failed _ ordered' h
    rw [placeItem, dif_pos new, told] at h
    simp only [failed] at h
    cases h
  · intro trail ordered item old ordered' h
    rw [placeItem, dif_neg old] at h
    obtain rfl := Except.ok.inj h
    exact .pass old
  · intro trail ordered ordered' h
    rw [placeItems] at h
    obtain rfl := Except.ok.inj h
    exact .nil
  -- the first item is placed, and then the others
  · intro trail ordered item rest ordered₁ first ih₁ ih₂ ordered' h
    rw [placeItems, first] at h
    exact (ih₁ ordered₁ first).cons (ih₂ ordered' h)
  · intro trail ordered item rest failure failed _ ordered' h
    rw [placeItems, failed] at h
    cases h

/-- Where what items read can be told, placing them comes to an end. -/
lemma place_eq_ok {p : Product} (told : ∀ item, p.references item = .ok (p.reads item))
    (wanted : List String) :
    (∀ trail ordered item, ∃ order, p.placeItem wanted trail ordered item = .ok order) ∧
    (∀ trail ordered items, ∃ order, p.placeItems wanted trail ordered items = .ok order) := by
  apply placeItem.mutual_induct p wanted
    (fun trail ordered item => ∃ order, p.placeItem wanted trail ordered item = .ok order)
    (fun trail ordered items => ∃ order, p.placeItems wanted trail ordered items = .ok order)
  · intro trail ordered item _ failure failed
    rw [told item] at failed
    cases failed
  · intro trail ordered item new items read ordered₁ placed _
    refine ⟨ordered₁ ++ [item], ?_⟩
    rw [placeItem, dif_pos new, read]
    simp only [placed]
  · rintro trail ordered item _ items _ failure failed ⟨ordered', e⟩
    rw [failed] at e
    cases e
  · intro trail ordered item old
    exact ⟨ordered, by rw [placeItem, dif_neg old]⟩
  · intro trail ordered
    exact ⟨ordered, by rw [placeItems]⟩
  · rintro trail ordered item rest ordered₁ first - ⟨ordered₂, later⟩
    refine ⟨ordered₂, ?_⟩
    rw [placeItems, first]
    exact later
  · rintro trail ordered item rest failure failed ⟨ordered', e⟩
    rw [failed] at e
    cases e

/-- Items in two parts are placed part by part. -/
lemma placeItems_append {p : Product} {wanted trail ordered order front back : List String}
    (h : p.placeItems wanted trail ordered (front ++ back) = .ok order) :
    ∃ ordered₁, p.placeItems wanted trail ordered front = .ok ordered₁ ∧
      p.placeItems wanted trail ordered₁ back = .ok order := by
  induction front generalizing ordered with
  | nil => exact ⟨ordered, by rw [placeItems], h⟩
  | cons item rest ih =>
    rw [List.cons_append, placeItems] at h
    rw [placeItems]
    cases first : p.placeItem wanted trail ordered item with
    | error failure =>
      rw [first] at h
      cases h
    | ok ordered₁ =>
      rw [first] at h
      exact ih h

section

variable {p : Product} {items order : List String} (distinct : items.Nodup)
  (h : p.evaluationOrder items = .ok order)

include distinct h

/-- The order of evaluation has each item once. -/
lemma perm_evaluationOrder : order.Perm items := by
  have grows := (grows_place p items).2 [] [] items order h
  rw [List.perm_ext_iff_of_nodup (grows.distinct List.nodup_nil) distinct]
  intro a
  constructor
  · intro mem
    exact ((grows.origin a mem).resolve_left List.not_mem_nil).1
  · exact fun mem => grows.placed a mem mem List.not_mem_nil

/-- An item comes before one that was asked for earlier only if that one, or one before it, leads to
it: it was placed along with them. -/
lemma leadsWithin_of_overtaking {x y : String}
    (asked : Before items x y) (overtakes : Before order y x) :
    ∃ z, (z = x ∨ Before items z x) ∧ p.LeadsWithin items z y := by
  obtain ⟨front, back, e, hx, hy⟩ := asked.parts
  obtain ⟨pre, mid, rfl⟩ := List.append_of_mem hx
  -- the items up to the earlier one are placed first
  have parts : items = (pre ++ [x]) ++ (mid ++ back) := by simp [e]
  rw [evaluationOrder, show p.placeItems items [] [] items =
    p.placeItems items [] [] ((pre ++ [x]) ++ (mid ++ back)) by rw [← parts]] at h
  obtain ⟨first, ordered₁, later⟩ := placeItems_append h
  have grows₁ := (grows_place p items).2 [] [] (pre ++ [x]) first ordered₁
  have grows₂ := (grows_place p items).2 [] first (mid ++ back) order later
  have mine : x ∈ first := by
    refine grows₁.placed x (by simp) ?_ List.not_mem_nil
    rw [parts]
    simp
  obtain ⟨more, rfl⟩ := grows₂.before
  have early : y ∈ first := by
    by_contra late
    have there : y ∈ first ++ more := overtakes.subset List.mem_cons_self
    have behind := (List.mem_append.1 there).resolve_left late
    exact (before_append mine behind).asymm
      (grows₂.distinct (grows₁.distinct List.nodup_nil)) overtakes
  obtain ⟨-, -, z, hz, -, leads⟩ := (grows₁.origin y early).resolve_left List.not_mem_nil
  have other : y ∉ pre ++ [x] := by
    intro mem
    rw [parts] at distinct
    exact List.disjoint_of_nodup_append distinct mem (List.mem_append_right _ hy)
  refine ⟨z, ?_, ?_⟩
  · rcases List.mem_append.1 hz with earlier | own
    · refine .inr ?_
      rw [e, List.append_assoc]
      exact before_append earlier (by simp)
    · exact .inl (List.mem_singleton.1 own)
  · rcases Relation.reflTransGen_iff_eq_or_transGen.1 leads with rfl | leads
    · exact absurd hz other
    · exact leads

end

/-- **The order of evaluation is a topological order that keeps the given one.** For an accepted
product the order of distinct items is a permutation of them in which each comes after the ones that
it reads, and an item overtakes one that was given before it only if that one, or one given before
that, leads to it through the items. For any product whose formulas can be read, also where items
read one another in a circle, there is an order, and it is a permutation. -/
theorem evaluationOrder_ordered (p : Product) :
    (p.check = .ok p → ∀ items : List String, items.Nodup →
      ∃ order, p.evaluationOrder items = .ok order ∧ order.Perm items ∧
        (∀ a ∈ items, ∀ b ∈ items, b ∈ p.reads a → Before order b a) ∧
        ∀ x y, Before items x y → Before order y x →
          ∃ z, (z = x ∨ Before items z x) ∧ p.LeadsWithin items z y) ∧
    (p.Readable → ∀ items : List String, items.Nodup →
      ∃ order, p.evaluationOrder items = .ok order ∧ order.Perm items) := by
  constructor
  · intro accepted items distinct
    have sound := (sound_of_check accepted).2
    obtain ⟨order, h, ext, mem⟩ := (sound.placed_place items).2 [] [] items (by simp) .nil
    refine ⟨order, h, perm_evaluationOrder distinct h, ?_,
      fun x y => leadsWithin_of_overtaking distinct h⟩
    exact fun a ha b hb read => ext.placed.after (mem a ha ha) read hb
  · intro readable items distinct
    obtain ⟨order, h⟩ := (place_eq_ok readable.references_eq_ok items).2 [] [] items
    exact ⟨order, h, perm_evaluationOrder distinct h⟩

end Product

namespace Rods

/-- A rod whose length is measured, or taken from that of another one. -/
def rod (name : String) (origin : Option String) : Point where
  name := name
  setup := ⟨none, .quantitative, .single, if origin.isSome then .derived else .manual, origin,
    ⟨1, Nat.one_pos⟩⟩
  declarations := []
  sampleFormulas := []
  strategy := .perSample
  setting := ⟨some ⟨true, none⟩, none, none⟩
  rule := some ⟨.min, 0.0, "mm", none, none⟩

/-- Two rods: the outer one is as long as the inner one, and that one may be taken from it too. -/
def product (origin : Option String) : Product where
  id := "rods"
  name := "Rods"
  category := none
  description := none
  points := [rod "inner" origin, rod "outer" (some "inner")]
  groups := []

/-- Where the inner rod is measured, the rods are accepted. -/
lemma accepted : (product none).check = .ok (product none) := by
  have keys : (product none).readingGraph.keys = ["inner", "outer"] := by rfl
  have inner : (product none).readingGraph.find? "inner" = some [] := by rfl
  have outer : (product none).readingGraph.find? "outer" = some ["inner"] := by rfl
  have cycle : (product none).readingGraph.cycle? = none := by
    simp [Graph.cycle?, Graph.visitAll, Graph.visit_eq, keys, inner, outer, Except.map]
  have fine : (product none).issues = [] := by
    simp only [Product.issues, cycle]
    rfl
  rw [Product.check, fine]
  rfl

/-- The rods have no formulas, so all of them can be read. -/
lemma readable (origin : Option String) : (product origin).Readable := by
  intro point mem text used
  simp only [product, List.mem_cons, List.not_mem_nil, or_false] at mem
  rcases mem with rfl | rfl <;> cases used

/-- The outer rod is put after the inner one that it is taken from; two rods that are taken from
each other are put in some order too. -/
theorem evaluationOrder_rods :
    (product none).check = .ok (product none) ∧
      (∃ order, (product none).evaluationOrder ["outer", "inner"] = .ok order ∧
        order.Perm ["outer", "inner"] ∧ Before order "inner" "outer") ∧
      (product (some "outer")).Readable ∧ (product (some "outer")).reads "inner" = ["outer"] ∧
      ∃ order, (product (some "outer")).evaluationOrder ["outer", "inner"] = .ok order ∧
        order.Perm ["outer", "inner"] := by
  obtain ⟨order, h, perm, after, -⟩ :=
    (Product.evaluationOrder_ordered (product none)).1 accepted ["outer", "inner"] (by decide)
  have read : "inner" ∈ (product none).reads "outer" := by decide
  have circle := (Product.evaluationOrder_ordered (product (some "outer"))).2 (readable _)
    ["outer", "inner"] (by decide)
  exact ⟨accepted, ⟨order, h, perm, after "outer" (by simp) "inner" (by simp) read⟩, readable _,
    rfl, circle⟩

end Rods

end Inspection
