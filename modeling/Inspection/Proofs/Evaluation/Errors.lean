import Inspection.Proofs.Evaluation.Lacking

/-!
# Errors of evaluations

All errors that an evaluation raises (`raises_of_evaluate`): the request is unfit, data of other
items is missing, variables have no value, the final value is missing, or a formula of the point
fails. Items without data and variables without a value are named, at least one of them, so that no
error says nothing (`Raises.ne_unresolved`).
-/

namespace Inspection

open Formula

/-- A formula that fails is told by its text. -/
lemma text_of_failure {bindings : Bindings} {text : String} {failure : Failure}
    (h : evaluateText bindings text = .ok (.error failure)) : failure.text = text := by
  rw [evaluateText] at h
  split at h
  case h_1 => cases h
  case h_2 =>
    cases h
    rfl
  case h_3 => cases h

/-- Variables that do not resolve are told, and there are some. -/
lemma unresolved_of_resolve {declarations : List Variable} {t : Table Float} {c : Context}
    {item : Option String} {e : Error} (h : resolve declarations (.ofTable t) c item = raise e) :
    ∃ failures, e = .unresolved item failures ∧ failures ≠ [] := by
  obtain h | ⟨r, -, h⟩ := bind_eq_error.1 h
  · exact absurd h (Resolution.run_ne_raise (Inputs.numeric_ofTable t) e)
  · split at h
    case isTrue => cases h
    case isFalse some =>
      cases h
      exact ⟨_, rfl, by simpa [Table.values] using some⟩

namespace Point

/-- The formulas of a point over its samples, by their names. -/
def namedFormulas (p : Point) : List (String × String) :=
  p.sampleFormulas.map SampleFormula.named ++
    ((p.setting.joint.map JointSetting.formulas).getD []).map JointFormula.named

/-- The errors that an evaluation raises. -/
inductive Raises (p : Point) (s : Submission) (c : Context) : Error → Prop
  | request {defect} : Raises p s c (.validation (.text p.name) defect)
  | missingData {items} : items ≠ [] → Raises p s c (.missingDependency p.name items)
  | unresolved {failures} :
    resolve p.declarations (.ofTable s.inputs) c (some p.name) =
      raise (.unresolved (some p.name) failures) →
    failures ≠ [] →
    Raises p s c (.unresolved (some p.name) failures)
  | missingFinal {cause} : Raises p s c (.missingFinal (some p.name) cause)
  | formula {name failure e} :
    (name, failure.text) ∈ p.namedFormulas →
    Fault.ofFailure failure (some p.name) (some name) = .error e →
    Raises p s c e
  | unread {setting f failure e} :
    p.strategy = .joint → p.setting.joint = some setting → f ∈ setting.formulas →
    referencesOf f.formula = .error failure →
    Fault.ofFailure failure = .error e →
    Raises p s c e

variable {p : Point} {s : Submission} {c : Context} {complete : Bool} {e : Error}

/-- The errors of variables without values. -/
lemma raises_of_resolveVariables (h : p.resolveVariables s c = raise e) : p.Raises s c e := by
  rw [resolveVariables] at h
  split at h
  case h_1 e' resolved =>
    obtain ⟨failures, rfl, told⟩ := unresolved_of_resolve resolved
    dsimp only at h
    split at h
    case isTrue =>
      cases h
      exact .unresolved resolved told
    case isFalse some =>
      cases h
      exact .missingData (by simpa using some)
  case h_2 other => exact absurd h (other e)

/-- The errors of formulas over a sample. -/
lemma raises_of_computeValues {bindings : Bindings} {fs : List SampleFormula}
    (own : fs ⊆ p.sampleFormulas)
    (h : Sample.computeValues (some p.name) bindings fs = raise e) : p.Raises s c e := by
  induction fs generalizing bindings with
  | nil => cases h
  | cons f rest ih =>
    obtain h | ⟨outcome, evaluated, h⟩ := bind_eq_error.1 h
    · exact absurd h (evaluateText_ne_raise e)
    cases outcome with
    | error failure =>
      have mem : (f.name, failure.text) ∈ p.namedFormulas := by
        rw [text_of_failure evaluated]
        exact List.mem_append_left _ (List.mem_map_of_mem (own List.mem_cons_self))
      exact .formula mem (Except.error.inj h)
    | ok x =>
      obtain h | ⟨values, -, h⟩ := bind_eq_error.1 h
      · exact ih (fun g mem => own (List.mem_cons_of_mem _ mem)) h
      · cases h

/-- The errors of formulas over all samples. -/
lemma raises_of_computeJoint {bindings : Bindings} {fs : List JointFormula}
    {setting : JointSetting} (given : p.setting.joint = some setting) (own : fs ⊆ setting.formulas)
    (h : p.computeJoint bindings fs = raise e) : p.Raises s c e := by
  induction fs generalizing bindings with
  | nil => cases h
  | cons f rest ih =>
    obtain h | ⟨outcome, evaluated, h⟩ := bind_eq_error.1 h
    · exact absurd h (evaluateText_ne_raise e)
    cases outcome with
    | error failure =>
      have mem : (f.name, failure.text) ∈ p.namedFormulas := by
        rw [text_of_failure evaluated, namedFormulas, given]
        exact List.mem_append_right _ (List.mem_map_of_mem (own List.mem_cons_self))
      exact .formula mem (Except.error.inj h)
    | ok x =>
      obtain h | ⟨values, -, h⟩ := bind_eq_error.1 h
      · exact ih (fun g mem => own (List.mem_cons_of_mem _ mem)) h
      · cases h

/-- A rule raises no error. -/
lemma accepts_ne_raise {rule : Option Rule} {x : Option Float} :
    Outcome.of Fault.ofRule (Rule.accepts rule x) ≠ raise e := by
  intro h
  obtain ⟨flaw, -, h⟩ := Outcome.of_eq_error.1 h
  cases flaw <;> cases h

/-- The errors of judging sample by sample. -/
lemma raises_of_judgeSamples {r : Result} (h : p.judgeSamples r = raise e) : p.Raises s c e := by
  rw [judgeSamples] at h
  split at h
  case h_1 =>
    cases h
    exact .request
  case h_2 setting _ =>
    obtain h | ⟨samples, -, h⟩ := bind_eq_error.1 h
    · obtain ⟨sample, -, h⟩ := exists_of_mapM_eq_error h
      obtain h | ⟨status, -, h⟩ := bind_eq_error.1 h
      · exact absurd h accepts_ne_raise
      · cases h
    · cases h

/-- The errors of judging from all samples. -/
lemma raises_of_judgeJoint (strategy : p.strategy = .joint) {named : Table Float} {r : Result}
    (h : p.judgeJoint c named r = raise e) : p.Raises s c e := by
  rw [judgeJoint] at h
  split at h
  case h_1 =>
    cases h
    exact .missingFinal
  case h_2 setting given =>
    split at h
    case h_1 =>
      cases h
      exact .missingFinal
    case h_2 final _ _ =>
      obtain h | ⟨items, -, h⟩ := bind_eq_error.1 h
      · obtain ⟨failure, unread, h⟩ := Outcome.of_eq_error.1 h
        obtain unread | ⟨references, -, other⟩ := bind_eq_error.1 unread
        · obtain ⟨f, mem, unread⟩ := exists_of_mapM_eq_error unread
          exact .unread strategy given mem unread h
        · cases other
      · dsimp only at h
        split at h
        case isTrue some =>
          cases h
          exact .missingData (by simpa using some)
        case isFalse =>
          obtain h | ⟨values, -, h⟩ := bind_eq_error.1 h
          · exact raises_of_computeJoint given (List.Subset.refl _) h
          · split at h
            case h_1 =>
              cases h
              exact .missingFinal
            case h_2 =>
              obtain h | ⟨status, -, h⟩ := bind_eq_error.1 h
              · exact absurd h accepts_ne_raise
              · cases h

/-- The errors of an evaluation of samples. -/
lemma raises_of_evaluateSamples {raw : List Sample} (h : p.evaluateSamples s c raw = raise e) :
    p.Raises s c e := by
  obtain h | ⟨named, -, h⟩ := bind_eq_error.1 h
  · exact raises_of_resolveVariables h
  obtain h | ⟨processed, -, h⟩ := bind_eq_error.1 h
  · obtain ⟨sample, -, h⟩ := exists_of_mapM_eq_error h
    obtain h | ⟨values, -, h⟩ := bind_eq_error.1 h
    · exact raises_of_computeValues (List.Subset.refl _) h
    · cases h
  rw [judge] at h
  split at h
  case h_1 => exact raises_of_judgeSamples h
  case h_2 strategy => exact raises_of_judgeJoint strategy h
  case h_3 => cases h

/-- The errors of an evaluation. -/
theorem raises_of_evaluate (h : p.evaluate s c complete = raise e) : p.Raises s c e := by
  rw [evaluate] at h
  split at h
  case isTrue =>
    cases h
    exact .request
  case isFalse =>
    split at h
    case isTrue => exact raises_of_evaluateSamples h
    case isFalse =>
      split at h
      case h_1 =>
        cases h
        exact .request
      case h_2 => cases h
      case h_3 =>
        obtain h | ⟨raw, -, h⟩ := bind_eq_error.1 h
        · rw [derivedSamples] at h
          split at h
          case isTrue =>
            cases h
            exact .missingData (List.cons_ne_nil _ _)
          case isFalse => cases h
        · exact raises_of_evaluateSamples h

/-- The failure of a formula is none of variables. -/
lemma ofFailure_ne_unresolved {failure : Failure} {item name i : Option String}
    {failures : List VariableFailure} :
    Fault.ofFailure failure item name ≠ .error (.unresolved i failures) := by
  intro h
  rw [Fault.ofFailure] at h
  split at h
  case h_1 o _ => cases o <;> cases h
  case h_2 => cases h

/-- An error that tells of variables without a value names some. -/
lemma Raises.ne_unresolved (raises : p.Raises s c e) (i : Option String) :
    e ≠ .unresolved i [] := by
  rintro rfl
  cases raises with
  | unresolved _ told => exact told rfl
  | formula _ h => exact ofFailure_ne_unresolved h
  | unread _ _ _ _ h => exact ofFailure_ne_unresolved h

end Point

end Inspection
