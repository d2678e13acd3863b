import Inspection.Proofs.Evaluation.Errors
import Inspection.Proofs.Evaluation.Naming

/-!
# Where errors come from

An error of an evaluation is `Located` if it tells where it comes from: the item always, a formula
by its name and text, variables by their names, and at least one item whose data is missing. The
formula of a checked point that fails is told by its name and text (`ofFailure_eq_error`), and
variables fail in the order of their declaration (`Resolution.failures_of_run`). So all errors of
checked points are located (`evaluate_located`).
-/

namespace Inspection

open Formula

/-- The error tells where in the evaluation of a point it comes from. -/
def Error.Located (p : Point) : Error → Prop
  | validation item _ => item = .text p.name
  | missingDependency item missing => item = p.name ∧ missing ≠ []
  | expression item formula text _ =>
    item = some p.name ∧ ∃ f ∈ p.namedFormulas, formula = some f.1 ∧ text = some f.2
  | unresolved item failures =>
    item = some p.name ∧ failures ≠ [] ∧ (failures.map VariableFailure.name).Nodup ∧
      (failures.map VariableFailure.name).Sublist p.variableNames
  | missingFinal item _ => item = some p.name
  | _ => False

/-- A failure of a formula that errors attribute to an item and a name. -/
lemma ofFailure_eq_error {failure : Failure} {item name : String} {e : Error} (about : item ≠ "")
    (named : name ≠ "") (h : Fault.ofFailure failure (some item) (some name) = .error e) :
    e = .expression (some item) (some name) (some failure.text) failure.cause := by
  rw [Fault.ofFailure] at h
  split at h
  case h_1 o _ => cases o <;> cases h
  case h_2 =>
    cases h
    simp [Error.ofFailure, Error.attributed, about, named]

namespace Resolution

variable {inputs : Inputs} {c : Context} {r r' : Resolution} {v : Variable}

/-- A step notes one failure at most, under the name of its variable. -/
lemma failures_of_step (numeric : inputs.Numeric) (h : r.step inputs c v = .ok r') :
    r'.failures = r.failures ∨
      ∃ failure, failure.name = v.name ∧ r'.failures = r.failures.insert v.name failure := by
  have turns : r.Turns c v (.ok r') := h ▸ turns_of_step numeric
  cases turns with
  | resolved => exact .inl rfl
  | @failed cause missing => exact .inr ⟨⟨v.name, cause, missing⟩, rfl, rfl⟩

/-- A run over variables with distinct new names notes failures of some of them, in their order. -/
lemma failures_of_run {vs : List Variable} (numeric : inputs.Numeric)
    (distinct : (vs.map Variable.name).Nodup) (new : ∀ v ∈ vs, v.name ∉ r.failures.keys)
    (h : vs.foldlM (step inputs c) r = .ok r') :
    ∃ more, r'.failures.values = r.failures.values ++ more ∧
      (more.map VariableFailure.name).Sublist (vs.map Variable.name) := by
  induction vs generalizing r with
  | nil =>
    cases h
    exact ⟨[], (List.append_nil _).symm, List.Sublist.refl _⟩
  | cons v rest ih =>
    rw [List.foldlM_cons] at h
    obtain ⟨r₁, first, h⟩ := bind_eq_ok.1 h
    rw [List.map_cons, List.nodup_cons] at distinct
    obtain ⟨only, distinct⟩ := distinct
    have other : ∀ w ∈ rest, w.name ∉ r.failures.keys :=
      fun w mem => new w (List.mem_cons_of_mem _ mem)
    rcases failures_of_step numeric first with same | ⟨failure, name, noted⟩
    · obtain ⟨more, e, order⟩ := ih distinct (same ▸ other) h
      exact ⟨more, same ▸ e, order.cons v.name⟩
    · have own : v.name ∉ r.failures.keys := new v List.mem_cons_self
      have later : ∀ w ∈ rest, w.name ∉ r₁.failures.keys := by
        intro w mem
        rw [noted, Table.keys_insert, if_neg own, List.mem_append, List.mem_singleton, not_or]
        exact ⟨other w mem, fun again => only (again ▸ List.mem_map_of_mem mem)⟩
      have put : r₁.failures.values = r.failures.values ++ [failure] := by
        rw [noted, Table.values, Table.values, Table.insert]
        dsimp only
        rw [putEntry_of_new own, List.map_append]
        rfl
      obtain ⟨more, e, order⟩ := ih distinct later h
      refine ⟨failure :: more, ?_, ?_⟩
      · rw [e, put, List.append_assoc]
        rfl
      · rw [List.map_cons, List.map_cons, name]
        exact order.cons_cons v.name

end Resolution

namespace Point

variable {p : Point} {s : Submission} {c : Context} {complete : Bool} {e : Error}

/-- Variables without issues have distinct names. -/
lemma distinct_of_variablesIssues {declared : List String} {vs : List Variable}
    (fine : p.variablesIssues declared vs = []) : (vs.map Variable.name).Nodup := by
  induction vs generalizing declared with
  | nil => exact List.nodup_nil
  | cons v rest ih =>
    obtain ⟨-, -, later⟩ := fresh_of_variablesIssues fine
    rw [List.map_cons, List.nodup_cons]
    refine ⟨?_, ih later⟩
    intro again
    obtain ⟨w, mem, same⟩ := List.mem_map.1 again
    exact new_of_variablesIssues later mem (by simp [same])

/-- The variables of a point without issues fail in the order of their declaration, each once. -/
lemma order_of_unresolved (fine : p.issues = []) {item i : Option String} {t : Table Float}
    {failures : List VariableFailure}
    (h : resolve p.declarations (.ofTable t) c item = raise (.unresolved i failures)) :
    (failures.map VariableFailure.name).Nodup ∧
      (failures.map VariableFailure.name).Sublist p.variableNames := by
  simp only [issues, List.append_eq_nil_iff] at fine
  have distinct := distinct_of_variablesIssues fine.1.1.2
  have numeric := Inputs.numeric_ofTable t
  obtain h | ⟨r, run, h⟩ := bind_eq_error.1 h
  · exact absurd h (Resolution.run_ne_raise numeric _)
  · split at h
    case isTrue => cases h
    case isFalse =>
      cases h
      obtain ⟨more, values, order⟩ := Resolution.failures_of_run numeric distinct
        (by simp [Resolution.start, Table.empty, Table.keys]) run
      have all : r.failures.values = more := by
        rw [values]
        rfl
      rw [all]
      exact ⟨distinct.sublist order, order⟩

/-- The point and its formulas over samples have names that are not empty. -/
def Named (p : Point) : Prop :=
  p.name ≠ "" ∧ ∀ f ∈ p.namedFormulas, f.1 ≠ ""

/-- The errors of a point without issues are located. -/
lemma Raises.located (fine : p.issues = []) (named : p.Named) (raises : p.Raises s c e) :
    e.Located p := by
  cases raises with
  | request => exact rfl
  | missingData some => exact ⟨rfl, some⟩
  | unresolved h some => exact ⟨rfl, some, order_of_unresolved fine h⟩
  | missingFinal => exact rfl
  | @formula name failure e mem h =>
    rw [ofFailure_eq_error named.1 (named.2 _ mem) h]
    exact ⟨rfl, _, mem, rfl, rfl⟩
  | unread strategy given mem unread _ =>
    obtain ⟨r, read⟩ := (sound_of_issues fine).ofJoint strategy _ given _ mem
    rw [referencesOf_eq_ok.2 read] at unread
    cases unread

end Point

/-- **Errors of evaluations say where they come from.** Whatever error an evaluation of a point of an
accepted product raises, it tells the item; if a formula over samples fails, its name and text; if
variables have no value, some declared ones, each once and in the order of their declaration; and if
data is missing, some items. -/
theorem evaluate_located {product : Product} (accepted : product.check = .ok product) {p : Point}
    (mem : p ∈ product.points) (named : p.Named) {s : Submission} {c : Context} {complete : Bool}
    {e : Error} (h : p.evaluate s c complete = raise e) : e.Located p := by
  have fine := Product.issues_of_mem (Product.issues_of_check accepted).2 mem
  exact (Point.raises_of_evaluate h).located fine named

namespace Gauge

/-- A slack of zero, by which the last formula of a gauge divides. -/
def slackless : Submission :=
  ⟨"gap", .ofList [("slack", 0.0)], [⟨⟨1, Nat.one_pos⟩, some 1.5, none, none⟩]⟩

/-- The name of the formula that an outcome blames. -/
def blamed? : Outcome Result → Option String
  | .error (.error (.expression _ formula _ _)) => formula
  | _ => none

/-- Without a slack the last formula of a gauge fails, and the error tells it. -/
theorem evaluate_located_gain :
    product.check = .ok product ∧ point ∈ product.points ∧ point.Named ∧
      ∃ item formula text cause,
        point.evaluate slackless .empty true = raise (.expression item formula text cause) ∧
        formula = some "gain" ∧ (Error.expression item formula text cause).Located point := by
  have mem : point ∈ product.points := List.mem_cons_self
  have named : point.Named := ⟨by decide, by decide⟩
  have fails : blamed? (point.evaluate slackless .empty true) = some "gain" := by decide +kernel
  unfold blamed? at fails
  split at fails
  case h_1 item formula text cause h =>
    exact ⟨accepted, mem, named, item, formula, text, cause, h, fails,
      evaluate_located accepted mem named h⟩
  case h_2 => cases fails

end Gauge

end Inspection
