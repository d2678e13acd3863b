import Inspection.Proofs.Product.Ordering

/-!
# Dependencies within a request

The available items that an item needs: those that it reads, and those that these read in turn. A
walk over the items has `Explored` some of them, and what is read by an explored one is explored or
pending. Taking a pending item keeps that (`Explored.take`), so when nothing is pending the explored
items are just those that are needed (`requestDependencies_of_told`), also where items read one
another in a circle.

Of points that share a name only the first is found by it, but a walk from a later one starts with
what that one reads. It goes as if its point came first (`reachable_leading`), since a walk comes by
no item of the name that it starts from; so for all points of a product whose formulas can be read,
just what is reached is found (`requestDependencies_exact`).
-/

namespace Inspection.Product

/-- An available item is needed for another one, which reads it directly or through such items. -/
inductive Needs (p : Product) (available : List String) (target : String) : String → Prop where
  | direct {x} :
    x ∈ p.reads target →
    x ∈ available →
    x ≠ target →
    Needs p available target x
  | through {y x} :
    Needs p available target y →
    x ∈ p.reads y →
    x ∈ available →
    x ≠ target →
    Needs p available target x

/-- What is needed is available. -/
lemma Needs.mem {p : Product} {available : List String} {target x : String}
    (needs : p.Needs available target x) : x ∈ available := by
  cases needs with
  | direct _ mem _ => exact mem
  | through _ _ mem _ => exact mem

/-- How far a walk from an item has come: all found are needed, and what they or the item read is
found or pending. -/
structure Explored (p : Product) (available : List String) (target : String)
    (found pending : List String) : Prop where
  distinct : found.Nodup
  needed : ∀ x ∈ found, p.Needs available target x
  awaited : ∀ x ∈ pending, x ∈ available → x ≠ target → p.Needs available target x
  closed : ∀ y, y = target ∨ y ∈ found → ∀ x ∈ p.reads y, x ∈ available → x ≠ target →
    x ∈ found ∨ x ∈ pending

namespace Explored

variable {p : Product} {available found pending : List String} {target item : String}

/-- A walk starts with what the item reads. -/
lemma start : Explored p available target [] (p.reads target) where
  distinct := List.nodup_nil
  needed := by simp
  awaited _ read := .direct read
  closed := by
    rintro y (rfl | mem) x read _ _
    · exact .inr read
    · cases mem

/-- A pending item that is new is found, and what it reads is pending. -/
lemma take (explored : Explored p available target found (item :: pending))
    (new : item ∈ available ∧ item ∉ found ∧ item ≠ target) :
    Explored p available target (found ++ [item]) (pending ++ p.reads item) := by
  obtain ⟨mem, out, other⟩ := new
  have needs := explored.awaited item List.mem_cons_self mem other
  refine ⟨?_, ?_, ?_, ?_⟩
  · rw [← List.concat_eq_append]
    exact explored.distinct.concat out
  · intro x hx
    rcases List.mem_append.1 hx with old | last
    · exact explored.needed x old
    · rwa [List.mem_singleton.1 last]
  · intro x hx
    rcases List.mem_append.1 hx with old | read
    · exact explored.awaited x (List.mem_cons_of_mem _ old)
    · exact .through needs read
  · intro y hy x read there other
    have known : y = target ∨ y ∈ found → x ∈ found ++ [item] ∨ x ∈ pending ++ p.reads item := by
      intro hy
      rcases explored.closed y hy x read there other with old | wait
      · exact .inl (List.mem_append_left _ old)
      · rcases List.mem_cons.1 wait with rfl | wait
        · exact .inl (List.mem_append_right _ List.mem_cons_self)
        · exact .inr (List.mem_append_left _ wait)
    rcases hy with rfl | hy
    · exact known (.inl rfl)
    · rcases List.mem_append.1 hy with hy | last
      · exact known (.inr hy)
      · rw [List.mem_singleton.1 last] at read
        exact .inr (List.mem_append_right _ read)

/-- A pending item that is unavailable, found already or the one in question is passed over. -/
lemma skip (explored : Explored p available target found (item :: pending))
    (old : ¬(item ∈ available ∧ item ∉ found ∧ item ≠ target)) :
    Explored p available target found pending where
  distinct := explored.distinct
  needed := explored.needed
  awaited x hx := explored.awaited x (List.mem_cons_of_mem _ hx)
  closed y hy x read there other := by
    rcases explored.closed y hy x read there other with found | wait
    · exact .inl found
    · rcases List.mem_cons.1 wait with rfl | wait
      · by_contra new
        exact old ⟨there, fun mem => new (.inl mem), other⟩
      · exact .inr wait

/-- When nothing is pending, just what is needed is found. -/
lemma mem_iff (explored : Explored p available target found []) {x : String} :
    x ∈ found ↔ p.Needs available target x := by
  have closed : ∀ y, y = target ∨ y ∈ found → ∀ x ∈ p.reads y, x ∈ available → x ≠ target →
      x ∈ found := by
    intro y hy x read there other
    exact (explored.closed y hy x read there other).resolve_right List.not_mem_nil
  constructor
  · exact explored.needed x
  · intro needs
    induction needs with
    | direct read there other => exact closed _ (.inl rfl) _ read there other
    | through _ read there other ih => exact closed _ (.inr ih) _ read there other

/-- A walk goes on until nothing is pending. -/
lemma reachable (told : ∀ item, p.references item = .ok (p.reads item))
    (explored : Explored p available target found pending) :
    ∃ needed, p.reachable available target found pending = .ok needed ∧
      Explored p available target needed [] := by
  induction found, pending using reachable.induct p available target with
  | case1 found =>
    refine ⟨found, ?_, explored⟩
    rw [Product.reachable]
  | case2 found item rest new failure failed =>
    rw [told item] at failed
    cases failed
  | case3 found item rest new items read ih =>
    obtain rfl : p.reads item = items := Except.ok.inj ((told item).symm.trans read)
    obtain ⟨needed, e, done⟩ := ih (explored.take new)
    refine ⟨needed, ?_, done⟩
    rw [Product.reachable, dif_pos new, told item]
    exact e
  | case4 found item rest old ih =>
    obtain ⟨needed, e, done⟩ := ih (explored.skip old)
    refine ⟨needed, ?_, done⟩
    rw [Product.reachable, dif_neg old]
    exact e

end Explored

/-- Where what items read can be told, the dependencies of a point within a request are the
available items that it needs, each once. -/
lemma requestDependencies_of_told {p : Product}
    (told : ∀ item, p.references item = .ok (p.reads item)) {item : String} {point : Point}
    (found : p.point? item = some point) (available : List String) :
    ∃ needed, p.requestDependencies point available = .ok needed ∧ needed.Nodup ∧
      ∀ x, x ∈ needed ↔ p.Needs available item x := by
  obtain ⟨-, rfl⟩ := point?_eq_some found
  obtain ⟨needed, e, done⟩ := Explored.start.reachable told
  refine ⟨needed, ?_, done.distinct, fun x => done.mem_iff⟩
  rw [requestDependencies, ← references_of_point? found, told]
  exact e

/-- The dependencies of a point within a request are the available items that it needs, each
once. -/
theorem requestDependencies_eq_ok {p : Product} (points : ∀ point ∈ p.points, point.Sound)
    {item : String} {point : Point} (found : p.point? item = some point) (available : List String) :
    ∃ needed, p.requestDependencies point available = .ok needed ∧ needed.Nodup ∧
      ∀ x, x ∈ needed ↔ p.Needs available item x :=
  requestDependencies_of_told (references_eq_ok points) found available

/-- An item is reached from a point through some items: the point reads one of them, which is the
item itself or leads to it along others of them. -/
def Reaches (p : Product) (items : List String) (point : Point) (x : String) : Prop :=
  ∃ read, point.itemReferences = .ok read ∧ ∃ first ∈ read, first ∈ items ∧
    Relation.ReflTransGen (fun a b => b ∈ p.reads a ∧ b ∈ items) first x

/-- What is reached through some items is one of them. -/
lemma Reaches.mem {p : Product} {items : List String} {point : Point} {x : String}
    (reaches : p.Reaches items point x) : x ∈ items := by
  obtain ⟨-, -, first, -, start, steps⟩ := reaches
  cases steps with
  | refl => exact start
  | tail _ step => exact step.2

/-- A product with one more point, which comes first. -/
def leading (p : Product) (point : Point) : Product :=
  { p with points := point :: p.points }

section

variable {p : Product} {point : Point} {available found pending : List String} {item x : String}

/-- The first point is found by its name. -/
lemma point?_leading : (p.leading point).point? point.name = some point :=
  List.find?_cons_of_pos (by simp)

/-- What an item of another name reads is not changed by a point that comes first. -/
lemma references_leading (other : item ≠ point.name) :
    (p.leading point).references item = p.references item := by
  have same : (p.leading point).point? item = p.point? item :=
    List.find?_cons_of_neg (by simpa using other.symm)
  rw [references, references, same]

/-- A walk from an item never asks what this one reads. -/
lemma reachable_leading :
    (p.leading point).reachable available point.name found pending =
      p.reachable available point.name found pending := by
  induction found, pending using reachable.induct p available point.name with
  | case1 found => rw [reachable, reachable]
  | case2 found item rest new failure failed =>
    rw [reachable, dif_pos new, reachable, dif_pos new, references_leading new.2.2, failed]
  | case3 found item rest new items read ih =>
    rw [reachable, dif_pos new, reachable, dif_pos new, references_leading new.2.2, read]
    exact ih
  | case4 found item rest old ih =>
    rw [reachable, dif_neg old, reachable, dif_neg old]
    exact ih

/-- So a point has the same dependencies in a product where it comes first. -/
lemma requestDependencies_leading :
    (p.leading point).requestDependencies point available =
      p.requestDependencies point available := by
  rw [requestDependencies, requestDependencies]
  simp only [reachable_leading]

/-- What is needed for an item is another one. -/
lemma Needs.ne {target : String} (needs : p.Needs available target x) : x ≠ target := by
  cases needs with
  | direct _ _ other => exact other
  | through _ _ _ other => exact other

/-- What a point needs where it comes first is what it reaches through the other available items. -/
lemma needs_leading_iff {read : List String} (told : point.itemReferences = .ok read) :
    (p.leading point).Needs available point.name x ↔
      p.Reaches (available.filter (· ≠ point.name)) point x := by
  have own : (p.leading point).reads point.name = read := by
    rw [reads, references_of_point? point?_leading, told]
    rfl
  have same : ∀ {y}, y ≠ point.name → (p.leading point).reads y = p.reads y := by
    intro y other
    rw [reads, references_leading other, reads]
  have among : ∀ {y}, y ∈ available.filter (· ≠ point.name) ↔ y ∈ available ∧ y ≠ point.name := by
    intro y
    rw [List.mem_filter, decide_eq_true_iff]
  constructor
  · intro needs
    induction needs with
    | @direct x mem there other =>
      exact ⟨read, told, x, own ▸ mem, among.2 ⟨there, other⟩, .refl⟩
    | through needs mem there other ih =>
      obtain ⟨read, told, first, hf, start, steps⟩ := ih
      rw [same needs.ne] at mem
      exact ⟨read, told, first, hf, start, steps.tail ⟨mem, among.2 ⟨there, other⟩⟩⟩
  · rintro ⟨read', told', first, hf, start, steps⟩
    obtain rfl : read = read' := Except.ok.inj (told.symm.trans told')
    induction steps with
    | refl =>
      obtain ⟨there, other⟩ := among.1 start
      exact .direct (own ▸ hf) there other
    | tail _ step ih =>
      obtain ⟨there, other⟩ := among.1 step.2
      exact .through ih (same ih.ne ▸ step.1) there other

/-- A product whose formulas can be read still has this with one of its points in front. -/
lemma Readable.leading (readable : p.Readable) (mem : point ∈ p.points) :
    (p.leading point).Readable := by
  intro other there
  rcases List.mem_cons.1 there with rfl | there
  · exact readable other mem
  · exact readable other there

end

/-- **The dependencies of a point are what it reaches.** For any product whose formulas can be read,
also where items read one another in a circle or share a name, and any of its points, the
dependencies among available items come to an end, and are just the available items other than the
point that it reaches through such items, each once. -/
theorem requestDependencies_exact {p : Product} (readable : p.Readable) {point : Point}
    (mem : point ∈ p.points) (available : List String) :
    ∃ needed, p.requestDependencies point available = .ok needed ∧ needed.Nodup ∧
      ∀ x, x ∈ needed ↔ p.Reaches (available.filter (· ≠ point.name)) point x := by
  have told := (readable.leading mem).references_eq_ok
  obtain ⟨needed, e, distinct, just⟩ := requestDependencies_of_told told point?_leading available
  have read := told point.name
  rw [references_of_point? point?_leading] at read
  rw [requestDependencies_leading] at e
  exact ⟨needed, e, distinct, fun x => (just x).trans (needs_leading_iff read)⟩

end Product

namespace Rods

/-- Three rods, each of which is taken from the next one around. -/
def ring : Product :=
  { product none with
    points := [rod "inner" (some "outer"), rod "outer" (some "cap"), rod "cap" (some "inner")] }

/-- The rods of the ring have no formulas, so all of them can be read. -/
lemma readable_ring : ring.Readable := by
  intro point mem text used
  simp only [ring, List.mem_cons, List.not_mem_nil, or_false] at mem
  rcases mem with rfl | rfl | rfl <;> cases used

/-- Around the ring, the inner rod depends on the two others and not on itself. -/
theorem requestDependencies_ring :
    ring.Readable ∧ rod "inner" (some "outer") ∈ ring.points ∧
      ∃ needed, ring.requestDependencies (rod "inner" (some "outer"))
          ["tape", "inner", "cap", "outer"] = .ok needed ∧ needed.Nodup ∧
        "outer" ∈ needed ∧ "cap" ∈ needed ∧ "inner" ∉ needed ∧
        ∀ x, x ∈ needed ↔
          ring.Reaches ["tape", "cap", "outer"] (rod "inner" (some "outer")) x := by
  have there : rod "inner" (some "outer") ∈ ring.points := List.mem_cons_self
  obtain ⟨needed, e, distinct, just⟩ := Product.requestDependencies_exact readable_ring there
    ["tape", "inner", "cap", "outer"]
  refine ⟨readable_ring, there, needed, e, distinct, ?_, ?_, ?_, just⟩
  · refine (just "outer").2 ⟨["outer"], rfl, "outer", by decide, by decide, .refl⟩
  · refine (just "cap").2 ⟨["outer"], rfl, "outer", by decide, by decide, .single ?_⟩
    exact ⟨by decide, by decide⟩
  · intro mem
    exact absurd ((just "inner").1 mem).mem (by decide)

end Rods

end Inspection
