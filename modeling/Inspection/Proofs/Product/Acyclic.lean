import Inspection.Product.Cycle
import Inspection.Proofs.Table

/-!
# Graphs without cycles

What a search for a cycle has shown when it finds none. The nodes that a visit leaves as done are
`Settled`: each comes after all that its edges lead to. Every node of a settled list is accessible
along the edges (`Settled.acc`), and `visit` and `visitAll` keep the list settled (`settled_visit`),
so a graph in which no cycle is found has none: its edges are well-founded
(`wellFounded_of_cycle?`).
-/

namespace Inspection.Graph

/-- An edge of the graph leads from the first node to the second. -/
def Edge (g : Graph) (a b : String) : Prop :=
  ∃ targets, g.find? a = some targets ∧ b ∈ targets

/-- Nodes each of which comes after all that its edges lead to. The last one done stands first. -/
inductive Settled (g : Graph) : List String → Prop where
  | nil : Settled g []
  | cons {node done} :
    (∀ b, g.Edge node b → b ∈ done) →
    Settled g done →
    Settled g (node :: done)

/-- A settled node leads back to no node that leads to it. -/
lemma Settled.acc {g : Graph} {done : List String} (st : Settled g done) {node : String}
    (mem : node ∈ done) : Acc (fun b a => g.Edge a b) node := by
  induction st generalizing node with
  | nil => cases mem
  | cons targets _ ih =>
    rcases List.mem_cons.1 mem with rfl | mem
    · exact Acc.intro _ fun b edge => ih (targets b edge)
    · exact ih mem

/-- How a node is visited: before a new node is done, all that its edges lead to are. -/
lemma visit_eq (g : Graph) (trail done : List String) (node : String) :
    g.visit trail done node =
      if node ∈ trail then .error (loop trail node)
      else if node ∈ done then .ok done
      else match g.find? node with
        | none => .ok (node :: done)
        | some targets => (g.visitAll (trail ++ [node]) done targets).map (node :: ·) := by
  rw [visit]
  split
  case isTrue => rfl
  case isFalse =>
    split
    case isTrue => rfl
    case isFalse =>
      split
      case h_1 none => rw [none]
      case h_2 targets found =>
        rw [found]
        dsimp only
        cases g.visitAll (trail ++ [node]) done targets with
        | ok done' => rfl
        | error cycle => rfl

/-- A visit that finds no cycle keeps what is done settled, and adds the node. -/
def Settles (g : Graph) (trail done : List String) (node : String) : Prop :=
  Settled g done → ∀ done', g.visit trail done node = .ok done' →
    Settled g done' ∧ done ⊆ done' ∧ node ∈ done'

/-- Visits that find no cycle keep what is done settled, and add the nodes. -/
def SettlesAll (g : Graph) (trail done targets : List String) : Prop :=
  Settled g done → ∀ done', g.visitAll trail done targets = .ok done' →
    Settled g done' ∧ done ⊆ done' ∧ ∀ node ∈ targets, node ∈ done'

/-- What is done is settled in every visit. -/
lemma settled_visit (g : Graph) :
    (∀ trail done node, Settles g trail done node) ∧
    (∀ trail done targets, SettlesAll g trail done targets) := by
  apply visit.mutual_induct g (Settles g) (SettlesAll g)
  -- the node is on the trail: a cycle
  · intro trail done node on _ done' h
    rw [visit_eq, if_pos on] at h
    cases h
  -- the node is done already
  · intro trail done node off mem st done' h
    rw [visit_eq, if_neg off, if_pos mem] at h
    cases h
    exact ⟨st, List.Subset.refl _, mem⟩
  -- the node has no edges
  · intro trail done node off new none st done' h
    rw [visit_eq, if_neg off, if_neg new, none] at h
    cases h
    refine ⟨.cons ?_ st, List.subset_cons_self _ _, List.mem_cons_self⟩
    rintro b ⟨targets, found, _⟩
    rw [none] at found
    cases found
  -- the targets of the node's edges come first
  · intro trail done node off new targets found done₁ all ih st done' h
    rw [visit_eq, if_neg off, if_neg new, found] at h
    dsimp only at h
    rw [all] at h
    cases h
    obtain ⟨st₁, sub, mem⟩ := ih st done₁ all
    refine ⟨.cons ?_ st₁, fun a ha => List.mem_cons_of_mem _ (sub ha), List.mem_cons_self⟩
    rintro b ⟨ts, hts, hb⟩
    obtain rfl : targets = ts := Option.some.inj (found.symm.trans hts)
    exact mem b hb
  · intro trail done node off new targets found cycle all _ _ done' h
    rw [visit_eq, if_neg off, if_neg new, found] at h
    dsimp only at h
    rw [all] at h
    cases h
  · intro trail done st done' h
    rw [visitAll] at h
    cases h
    exact ⟨st, List.Subset.refl _, by simp⟩
  · intro trail done target rest done₁ first ih₁ ih₂ st done' h
    rw [visitAll, first] at h
    obtain ⟨st₁, sub₁, mem₁⟩ := ih₁ st done₁ first
    obtain ⟨st₂, sub₂, mem₂⟩ := ih₂ st₁ done' h
    refine ⟨st₂, List.Subset.trans sub₁ sub₂, ?_⟩
    intro node mem
    rcases List.mem_cons.1 mem with rfl | mem
    · exact sub₂ mem₁
    · exact mem₂ node mem
  · intro trail done target rest cycle first _ _ done' h
    rw [visitAll, first] at h
    cases h

/-- A graph in which no cycle is found has none. -/
theorem wellFounded_of_cycle? {g : Graph} (h : g.cycle? = none) :
    WellFounded fun b a => g.Edge a b := by
  refine ⟨fun node => ?_⟩
  rw [cycle?] at h
  split at h
  case h_2 => cases h
  case h_1 done all =>
    obtain ⟨st, -, mem⟩ := (settled_visit g).2 [] [] g.keys .nil done all
    by_cases known : node ∈ g.keys
    · exact st.acc (mem node known)
    · refine Acc.intro _ ?_
      rintro b ⟨targets, found, -⟩
      exact absurd (Table.mem_keys_of_find? found) known

end Inspection.Graph
