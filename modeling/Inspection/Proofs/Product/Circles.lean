import Inspection.Proofs.Product.Ordering
import Mathlib.Data.List.Chain

/-!
# Circles

A walk that ends where it starts is a `Circle`. What the search of a graph returns is one, since its
trail is a walk along the edges (`circle_of_visit`); and where the edges are well-founded there is
none (`Circle.not_of_wellFounded`). So the search finds a circle just if there is one, and what
items of a checked product read never leads around in a circle (`cycle?_exact`).
-/

namespace Inspection

/-- A walk along a relation that ends where it starts. -/
structure Circle {α : Type} (r : α → α → Prop) (walk : List α) : Prop where
  long : 2 ≤ walk.length
  closed : walk.head? = walk.getLast?
  steps : walk.IsChain r

namespace Circle

variable {α : Type} {r r' : α → α → Prop} {walk : List α}

/-- A circle leads back to where it starts. -/
lemma leadsBack (circle : Circle r walk) : ∃ a, Relation.TransGen r a a := by
  obtain ⟨long, closed, steps⟩ := circle
  match walk with
  | [] => simp at long
  | [a] => simp at long
  | a :: b :: rest =>
    rw [List.isChain_cons_cons] at steps
    obtain ⟨first, others⟩ := steps
    have last : (b :: rest).getLast (List.cons_ne_nil _ _) = a := by
      rw [List.head?_cons, List.getLast?_cons_cons,
        List.getLast?_eq_getLast_of_ne_nil (List.cons_ne_nil _ _)] at closed
      exact (Option.some.inj closed).symm
    have onwards := List.relationReflTransGen_of_exists_isChain_cons rest others last
    exact ⟨a, .head' first onwards⟩

/-- Along a relation that cannot be followed forever there is no circle. -/
lemma not_of_wellFounded (ends : WellFounded fun b a => r a b) : ¬ Circle r walk := by
  intro circle
  obtain ⟨a, around⟩ := circle.leadsBack
  have back : Relation.TransGen (fun b a => r a b) a a := Relation.transGen_swap.1 around
  exact ends.transGen.irrefl.irrefl a back

/-- What leads around along one relation does so along a weaker one. -/
lemma mono (circle : Circle r walk) (le : ∀ a b, r a b → r' a b) : Circle r' walk where
  long := circle.long
  closed := circle.closed
  steps := circle.steps.imp le

end Circle

namespace Graph

variable {g : Graph}

/-- The part of the trail from a node on, closed by the node, is a circle. -/
lemma circle_loop {trail : List String} {node : String} (on : node ∈ trail)
    (steps : (trail ++ [node]).IsChain g.Edge) : Circle g.Edge (loop trail node) := by
  obtain ⟨before, after, rfl, new⟩ := List.eq_append_cons_of_mem on
  have e : loop (before ++ node :: after) node = node :: (after ++ [node]) := by
    rw [loop, List.dropWhile_append_of_pos, List.dropWhile_cons_of_neg (by simp), List.cons_append]
    intro a mem
    simpa using fun same : a = node => new (same ▸ mem)
  rw [e]
  refine ⟨by simp, ?_, ?_⟩
  · rw [List.head?_cons, ← List.cons_append, List.getLast?_concat]
  · rw [List.append_assoc] at steps
    exact steps.right_of_append

/-- A visit by a trail along the edges returns circles only. -/
def FindsCircle (g : Graph) (trail done : List String) (node : String) : Prop :=
  (trail ++ [node]).IsChain g.Edge →
    ∀ walk, g.visit trail done node = .error walk → Circle g.Edge walk

/-- Visits by a trail along the edges return circles only. -/
def FindsCircles (g : Graph) (trail done targets : List String) : Prop :=
  (∀ node ∈ targets, (trail ++ [node]).IsChain g.Edge) →
    ∀ walk, g.visitAll trail done targets = .error walk → Circle g.Edge walk

/-- What a visit returns as a cycle is a circle. -/
lemma circle_of_visit (g : Graph) :
    (∀ trail done node, FindsCircle g trail done node) ∧
    (∀ trail done targets, FindsCircles g trail done targets) := by
  apply visit.mutual_induct g (FindsCircle g) (FindsCircles g)
  -- the node is on the trail
  · intro trail done node on steps walk h
    rw [visit_eq, if_pos on] at h
    cases h
    exact circle_loop on steps
  -- the node is done already
  · intro trail done node off mem _ walk h
    rw [visit_eq, if_neg off, if_pos mem] at h
    cases h
  -- the node has no edges
  · intro trail done node off new none _ walk h
    rw [visit_eq, if_neg off, if_neg new, none] at h
    cases h
  -- the targets of the node's edges come first
  · intro trail done node off new targets found done' all _ _ walk h
    rw [visit_eq, if_neg off, if_neg new, found] at h
    dsimp only at h
    rw [all] at h
    cases h
  · intro trail done node off new targets found cycle all ih steps walk h
    rw [visit_eq, if_neg off, if_neg new, found] at h
    dsimp only at h
    rw [all] at h
    cases h
    apply ih
    · intro target mem
      rw [List.append_assoc, List.singleton_append, List.isChain_append_cons_cons]
      exact ⟨steps, ⟨targets, found, mem⟩, List.isChain_singleton target⟩
    · exact all
  -- the targets one after the other
  · intro trail done _ walk h
    rw [visitAll] at h
    cases h
  · intro trail done target rest done' first _ ih steps walk h
    rw [visitAll, first] at h
    exact ih (fun node mem => steps node (List.mem_cons_of_mem _ mem)) walk h
  · intro trail done target rest cycle first ih steps walk h
    rw [visitAll, first] at h
    cases h
    exact ih (steps target List.mem_cons_self) cycle first

/-- A cycle that is found is a circle. -/
lemma circle_of_cycle? {walk : List String} (h : g.cycle? = some walk) : Circle g.Edge walk := by
  rw [cycle?] at h
  split at h
  case h_1 => cases h
  case h_2 found =>
    cases h
    apply (circle_of_visit g).2 [] [] g.keys
    · intro node _
      exact List.isChain_singleton node
    · exact found

/-- No cycle is found just if there is no circle. -/
lemma cycle?_eq_none_iff : g.cycle? = none ↔ ¬ ∃ walk, Circle g.Edge walk := by
  constructor
  · rintro none ⟨walk, circle⟩
    exact Circle.not_of_wellFounded (wellFounded_of_cycle? none) circle
  · intro free
    cases h : g.cycle? with
    | none => rfl
    | some walk => exact absurd ⟨walk, circle_of_cycle? h⟩ free

end Graph

namespace Product

/-- A point of the product under the first name reads the item of the second one. -/
def Refers (p : Product) (a b : String) : Prop :=
  ∃ point ∈ p.points, point.name = a ∧ ∃ items, point.itemReferences = .ok items ∧ b ∈ items

/-- Among points with distinct names, what is referred to is read. -/
lemma mem_reads_of_refers {p : Product} (distinct : (p.points.map Point.name).Nodup) {a b : String}
    (refers : p.Refers a b) : b ∈ p.reads a := by
  obtain ⟨point, mem, rfl, items, read, there⟩ := refers
  rw [reads, references_of_point? (point?_of_mem distinct mem), read]
  exact there

/-- **Cycles are found just where there are some.** The search of a graph finds none just if there
is no circle along its edges, and what it finds is such a circle; so the items of a product that
passes the checks do not read one another in a circle. -/
theorem cycle?_exact :
    (∀ g : Graph, (g.cycle? = none ↔ ¬ ∃ walk, Circle g.Edge walk) ∧
      ∀ walk, g.cycle? = some walk → Circle g.Edge walk) ∧
    ∀ p : Product, p.check = .ok p → ¬ ∃ walk, Circle p.Refers walk := by
  constructor
  · intro g
    exact ⟨Graph.cycle?_eq_none_iff, fun walk => Graph.circle_of_cycle?⟩
  · rintro p accepted ⟨walk, circle⟩
    have sound := (sound_of_check accepted).2
    have around := circle.mono fun a b => mem_reads_of_refers sound.distinct
    exact Circle.not_of_wellFounded sound.acyclic around

end Product

namespace Rods

/-- The rods that are taken from each other, with a tape that is no point of the product. -/
def graph : Graph :=
  .ofList [("tape", ["scale", "inner"]), ("inner", ["outer", "outer"]), ("outer", ["inner"])]

/-- Two rods that are taken from each other are found, and rods that are accepted are not taken from
each other. -/
theorem cycle?_rods :
    graph.cycle? = some ["inner", "outer", "inner"] ∧
      Circle graph.Edge ["inner", "outer", "inner"] ∧
      (product none).check = .ok (product none) ∧ ¬ ∃ walk, Circle (product none).Refers walk := by
  have keys : graph.keys = ["tape", "inner", "outer"] := by rfl
  have tape : graph.find? "tape" = some ["scale", "inner"] := by rfl
  have scale : graph.find? "scale" = none := by rfl
  have inner : graph.find? "inner" = some ["outer", "outer"] := by rfl
  have outer : graph.find? "outer" = some ["inner"] := by rfl
  have found : graph.cycle? = some ["inner", "outer", "inner"] := by
    simp [Graph.cycle?, Graph.visitAll, Graph.visit_eq, Graph.loop, keys, tape, scale, inner, outer,
      Except.map]
  obtain ⟨graphs, products⟩ := Product.cycle?_exact
  exact ⟨found, (graphs graph).2 _ found, accepted, products _ accepted⟩

end Rods

end Inspection
