import Inspection.Formula.References
import Inspection.Proofs.Outcome

/-!
# What formulas mention

The leaves of a formula are the numbers and names that it is made of. Its references name exactly
the names among them (`name_mem_leaves`): those that it reads as numbers, and those that it takes
the average of.
-/

namespace Inspection

/-- The names after one more are those before and the new one. -/
lemma mem_addNew {names : List String} {name n : String} :
    n ∈ Formula.addNew names name ↔ n ∈ names ∨ n = name := by
  rw [Formula.addNew]
  split
  case isTrue h =>
    constructor
    · exact .inl
    · rintro (mem | rfl)
      · exact mem
      · exact h
  case isFalse h => rw [List.mem_append, List.mem_singleton]

namespace Formula

/-- A formula's text can be read on its own just if it can be read with its failure. -/
lemma referencesOf_eq_ok {text : String} {r : References} :
    referencesOf text = .ok r ↔ references text = .ok r := by
  rw [referencesOf]
  cases references text with
  | ok r' => simp
  | error cause => simp

/-- A part of a formula without parts of its own. -/
inductive Leaf
  | literal (l : Literal)
  | name (n : String)
deriving DecidableEq

mutual

/-- The leaves of a formula, from left to right. -/
def Expr.leaves : Expr → List Leaf
  | .literal l => [.literal l]
  | .name n => [.name n]
  | .unary _ e => e.leaves
  | .arith _ a b => a.leaves ++ b.leaves
  | .compare first rest => first.leaves ++ leavesOfRelated rest
  | .connect _ operands => leavesOfAll operands
  | .call _ args => leavesOfAll args

/-- The leaves of formulas, from left to right. -/
def leavesOfAll : List Expr → List Leaf
  | [] => []
  | e :: rest => e.leaves ++ leavesOfAll rest

/-- The leaves of compared operands, from left to right. -/
def leavesOfRelated : List (Relation × Expr) → List Leaf
  | [] => []
  | (_, e) :: rest => e.leaves ++ leavesOfRelated rest

end

namespace References

/-- The references have the name, as a number or as samples. -/
def Mentions (r : References) (n : String) : Prop :=
  n ∈ r.names ∨ n ∈ r.averaged

/-- Nothing mentions no name. -/
lemma not_mentions_none {n : String} : ¬ none.Mentions n := by
  simp [none, Mentions]

/-- With one more name as a number, that one is mentioned too. -/
lemma mentions_names {r : References} {name n : String} :
    Mentions { r with names := addNew r.names name } n ↔ r.Mentions n ∨ n = name := by
  simp only [Mentions, mem_addNew]
  tauto

/-- With one more name as samples, that one is mentioned too. -/
lemma mentions_averaged {r : References} {name n : String} :
    Mentions { r with averaged := addNew r.averaged name } n ↔ r.Mentions n ∨ n = name := by
  simp only [Mentions, mem_addNew]
  tauto

end References

mutual

/-- What a formula adds to the mentioned names are the names among its leaves. -/
lemma Expr.mentions_collect {n : String} : (e : Expr) → (r : References) →
    ((e.collect r).Mentions n ↔ r.Mentions n ∨ .name n ∈ e.leaves)
  | .literal l, r => by simp [Expr.collect, Expr.leaves]
  | .name m, r => by
    rw [Expr.collect, References.mentions_names, Expr.leaves, List.mem_singleton, Leaf.name.injEq]
  | .unary op e, r => by
    rw [Expr.collect, Expr.leaves]
    exact e.mentions_collect r
  | .arith op a b, r => by
    rw [Expr.collect, Expr.leaves, b.mentions_collect, a.mentions_collect, List.mem_append,
      or_assoc]
  | .compare first rest, r => by
    rw [Expr.collect, Expr.leaves, mentions_collectRelated, first.mentions_collect,
      List.mem_append, or_assoc]
  | .connect op operands, r => by
    rw [Expr.collect, Expr.leaves]
    exact mentions_collectAll operands r
  | .call f args, r => by
    rw [Expr.collect, Expr.leaves]
    exact mentions_collectArguments f args _

/-- What formulas add to the mentioned names are the names among their leaves. -/
lemma mentions_collectAll {n : String} : (es : List Expr) → (r : References) →
    ((collectAll r es).Mentions n ↔ r.Mentions n ∨ .name n ∈ leavesOfAll es)
  | [], r => by simp [collectAll, leavesOfAll]
  | e :: rest, r => by
    rw [collectAll, leavesOfAll, mentions_collectAll rest, e.mentions_collect, List.mem_append,
      or_assoc]

/-- What compared operands add to the mentioned names are the names among their leaves. -/
lemma mentions_collectRelated {n : String} : (es : List (Relation × Expr)) → (r : References) →
    ((collectRelated r es).Mentions n ↔ r.Mentions n ∨ .name n ∈ leavesOfRelated es)
  | [], r => by simp [collectRelated, leavesOfRelated]
  | (_, e) :: rest, r => by
    rw [collectRelated, leavesOfRelated, mentions_collectRelated rest, e.mentions_collect,
      List.mem_append, or_assoc]

/-- What arguments add to the mentioned names are the names among their leaves. -/
lemma mentions_collectArguments {n : String} (f : String) : (es : List Expr) → (r : References) →
    ((collectArguments f r es).Mentions n ↔ r.Mentions n ∨ .name n ∈ leavesOfAll es)
  | [], r => by simp [collectArguments, leavesOfAll]
  | e :: rest, r => by
    by_cases named : ∃ m, e = .name m
    · obtain ⟨m, rfl⟩ := named
      rw [collectArguments, leavesOfAll, Expr.leaves]
      split
      case isTrue =>
        rw [mentions_collectArguments f rest, References.mentions_averaged, List.mem_append,
          List.mem_singleton, Leaf.name.injEq, or_assoc]
      case isFalse =>
        rw [mentions_collectArguments f rest, References.mentions_names, List.mem_append,
          List.mem_singleton, Leaf.name.injEq, or_assoc]
    · rw [collectArguments, leavesOfAll, mentions_collectArguments f rest, e.mentions_collect,
        List.mem_append, or_assoc]
      intro m h
      exact named ⟨m, h⟩

end

/-- The references of a formula mention the names among its leaves. -/
lemma name_mem_leaves {e : Expr} {n : String} : .name n ∈ e.leaves ↔ e.references.Mentions n := by
  rw [Expr.references, Expr.mentions_collect]
  simp [References.not_mentions_none]

/-- A text that has references is read as the formula that has them. -/
lemma references_eq_ok {text : String} {r : References} :
    references text = .ok r ↔ ∃ e, parse text = .ok e ∧ e.references = r := by
  rw [references, bind_eq_ok]
  simp only [pure_eq_ok]

end Formula

end Inspection
