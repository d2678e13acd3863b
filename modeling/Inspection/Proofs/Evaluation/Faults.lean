import Inspection.Proofs.Evaluation.Scope
import Inspection.Proofs.Rule

/-!
# Faults of evaluations

What ends an evaluation of a checked point other than with an error of its own. A rule has an answer
for every finite number unless one of its limits is undefined or no number (`Undecided.unordered`),
and formulas see doubles only (`Works.of_doubles`), so that only a written integer beyond the
greatest double halts one. There is nothing else (`fault_of_evaluate`).
-/

namespace Inspection

open Formula

/-- A formula of a chain is one of those named. -/
lemma Chain.mem {bindings bindings' : Bindings} {fs : List (String × String)} {text : String}
    (chain : Chain bindings fs text bindings') : text ∈ fs.map Prod.snd := by
  induction chain with
  | head => exact List.mem_cons_self
  | tail _ _ ih => exact List.mem_cons_of_mem _ ih

/-- Where names stand for doubles, they do so in all formulas of a chain. -/
lemma Chain.of_doubles {bindings bindings' : Bindings} {fs : List (String × String)} {text : String}
    (chain : Chain bindings fs text bindings') (doubles : bindings.OfDoubles) :
    bindings'.OfDoubles := by
  induction chain with
  | head => exact doubles
  | @tail bindings name text rest x text' bindings' _ _ ih =>
    have more : (bindings.bind name (.float x)).OfDoubles := by
      intro n binding bound
      rw [Bindings.bind] at bound
      split at bound
      case isTrue =>
        cases bound
        exact .inl ⟨x, rfl⟩
      case isFalse => exact doubles n binding bound
    exact ih more

/-- Formulas that read only what is available can be read. -/
lemma ReadsOnly.readable {averages : String → Prop} {available : List String}
    {fs : List (String × String)} (only : ReadsOnly averages available fs) :
    ∀ f ∈ fs, ∃ r, references f.2 = .ok r := by
  induction fs generalizing available with
  | nil => simp
  | cons first rest ih =>
    intro f mem
    rcases List.mem_cons.1 mem with rfl | mem
    · obtain ⟨⟨r, read, -⟩, -⟩ := only
      exact ⟨r, read⟩
    · exact ih only.2 f mem

/-- A formula that the resolution of variables works out can be read. -/
lemma Resolution.Works.readable {inputs : Inputs} {c : Context} {r : Resolution}
    {vs : List Variable} {text : String} {bindings : Bindings}
    (worked : Works inputs c r vs text bindings) : ∃ refs, references text = .ok refs := by
  induction worked with
  | head _ _ read _ _ => exact ⟨_, read⟩
  | tail _ _ ih => exact ih

/-- A formula that the resolution of variables works out is one of theirs, and names in it stand for
doubles. -/
lemma Resolution.Works.of_doubles {inputs : Inputs} {c : Context} {r : Resolution}
    {vs : List Variable} {text : String} {bindings : Bindings}
    (worked : Works inputs c r vs text bindings) :
    bindings.OfDoubles ∧ text ∈ vs.filterMap Variable.formula := by
  induction worked with
  | @head r v rest text references _ given _ _ _ =>
    constructor
    · intro n binding bound
      rw [Resolution.bindings] at bound
      split at bound
      case h_1 samples _ =>
        cases bound
        exact .inr ⟨samples, rfl⟩
      case h_2 =>
        obtain ⟨x, -, rfl⟩ := Option.map_eq_some_iff.1 bound
        exact .inl ⟨x, rfl⟩
    · exact List.mem_filterMap.2 ⟨v, List.mem_cons_self, (Option.filter_eq_some_iff.1 given).1⟩
  | @tail r r' v rest text bindings _ _ ih =>
    refine ⟨ih.1, ?_⟩
    obtain ⟨w, mem, formula⟩ := List.mem_filterMap.1 ih.2
    exact List.mem_filterMap.2 ⟨w, List.mem_cons_of_mem _ mem, formula⟩

namespace Point

variable {p : Point} {s : Submission} {c : Context} {complete : Bool} {fault : Fault}

/-- The texts of a point's formulas. -/
def formulas (p : Point) : List String :=
  p.declarations.filterMap Variable.formula ++ p.sampleFormulas.map SampleFormula.formula ++
    ((p.setting.joint.map JointSetting.formulas).getD []).map JointFormula.formula

/-- Values of variables are doubles. -/
lemma doubles_of_named (named : Table Float) :
    Bindings.OfDoubles fun n => (named.find? n).map .float := by
  intro n binding bound
  obtain ⟨x, -, rfl⟩ := Option.map_eq_some_iff.1 bound
  exact .inl ⟨x, rfl⟩

/-- A formula that an evaluation works out is one of the point's, and names in it stand for
doubles. -/
lemma Works.of_doubles {text : String} {bindings : Bindings}
    (worked : p.Works s c complete text bindings) :
    bindings.OfDoubles ∧ text ∈ p.formulas := by
  rw [formulas, List.mem_append, List.mem_append]
  cases worked with
  | ofVariable _ worked =>
    obtain ⟨doubles, mem⟩ := worked.of_doubles
    exact ⟨doubles, .inl (.inl mem)⟩
  | @ofSample raw named sample text bindings _ _ _ chain =>
    have start : (p.sampleBindings named sample).OfDoubles := by
      intro n binding bound
      rw [sampleBindings, Sample.bindings] at bound
      split at bound
      case h_1 x _ =>
        cases bound
        exact .inl ⟨x, rfl⟩
      case h_2 => exact doubles_of_named named n binding bound
    have mem := chain.mem
    rw [List.map_map] at mem
    exact ⟨chain.of_doubles start, .inl (.inr mem)⟩
  | @ofJoint raw named processed setting items text bindings _ _ _ _ given _ chain =>
    have start : (jointBindings (p.sampleArrays processed) items c named).OfDoubles := by
      intro n binding bound
      rw [jointBindings] at bound
      split at bound
      case h_1 xs _ =>
        cases bound
        exact .inr ⟨xs, rfl⟩
      case h_2 =>
        split at bound
        case isTrue =>
          cases bound
          exact .inr ⟨c.values n, rfl⟩
        case isFalse => exact doubles_of_named named n binding bound
    have mem := chain.mem
    rw [List.map_map] at mem
    exact ⟨chain.of_doubles start, .inr (by rw [given]; exact mem)⟩

/-- Each formula that an evaluation of a point without issues works out can be read. -/
lemma Works.readable (fine : p.issues = []) {text : String} {bindings : Bindings}
    (worked : p.Works s c complete text bindings) : ∃ r, references text = .ok r := by
  cases worked with
  | ofVariable _ worked => exact worked.readable
  | @ofSample raw named sample text bindings _ _ _ chain =>
    simp only [issues, List.append_eq_nil_iff] at fine
    have only := readsOnly_of_sampleFormulasIssues fine.1.2
    obtain ⟨f, mem, rfl⟩ := List.mem_map.1 chain.mem
    exact only.readable f mem
  | @ofJoint raw named processed setting items text bindings _ _ _ _ _ read chain =>
    obtain ⟨rs, all, -⟩ := bind_eq_ok.1 read
    have named := chain.mem
    rw [List.map_map] at named
    obtain ⟨f, mem, rfl⟩ := List.mem_map.1 named
    obtain ⟨r, -, readable⟩ := exists_of_mapM all mem
    exact ⟨r, referencesOf_eq_ok.1 readable⟩

/-- A formula that can be read fails with an error. -/
lemma exists_error_of_failure {bindings : Bindings} {text : String} {r : References}
    (read : references text = .ok r) {failure : Failure}
    (h : evaluateText bindings text = .ok (.error failure)) (item name : Option String) :
    ∃ e, Fault.ofFailure failure item name = .error e := by
  rw [Fault.ofFailure]
  split
  case h_1 o cause =>
    obtain ⟨n, -, -, rfl⟩ := evaluateText_unbound read h (by rw [cause]; rfl)
    cases cause
  case h_2 => exact ⟨_, rfl⟩

/-- A point has a formula with an integer beyond the greatest double in it. -/
def WritesHuge (p : Point) : Prop :=
  ∃ text ∈ p.formulas, Formula.WritesHuge text

/-- A point has a rule with a limit that is undefined or no number. -/
def Unordered (p : Point) : Prop :=
  ∃ rule, p.rule = some rule ∧ rule.Unordered

/-- All that an evaluation of a point without issues ends with other than an error: an integer
beyond the greatest double in one of its formulas, or a limit of its rule that is none. -/
theorem fault_of_evaluate (fine : p.issues = [])
    (h : p.evaluate s c complete = .error fault) :
    (∃ e, fault = .error e) ∨ (fault = .overflow .hugeInteger ∧ p.WritesHuge) ∨
      (fault = .undefined ∧ p.Unordered) := by
  have sound := sound_of_issues fine
  have halted : ∀ text bindings, p.Works s c complete text bindings →
      evaluateText bindings text = .error fault →
        fault = .overflow .hugeInteger ∧ p.WritesHuge := by
    intro text bindings worked h
    obtain ⟨doubles, mem⟩ := worked.of_doubles
    obtain ⟨huge, writes⟩ := evaluateText_of_doubles doubles h
    exact ⟨huge, text, mem, writes⟩
  have fails := fails_of_evaluate h
  clear h
  cases fails with
  | request => exact .inl ⟨_, rfl⟩
  | missingData => exact .inl ⟨_, rfl⟩
  | missingFinal => exact .inl ⟨_, rfl⟩
  | unresolved => exact .inl ⟨_, rfl⟩
  | stopped stops =>
    cases stops with
    | unworkable mem kind given unread =>
      obtain ⟨r, read, -⟩ := sound.ofVariables _ mem kind _ given
      rw [read] at unread
      cases unread
    | halted worked h => exact .inr (.inl (halted _ _ worked h))
  | unread strategy given mem unread =>
    obtain ⟨r, read⟩ := sound.ofJoint strategy _ given _ mem
    rw [referencesOf_eq_ok.2 read] at unread
    cases unread
  | formula worked h =>
    obtain ⟨r, read⟩ := worked.readable fine
    exact .inl (exists_error_of_failure read h _ _)
  | halted worked h => exact .inr (.inl (halted _ _ worked h))
  | @unjudged rule x flaw given finite h =>
    obtain ⟨rfl, undecided⟩ := (Rule.admits_eq_error_iff finite).1 h
    exact .inr (.inr ⟨rfl, rule, given, undecided.unordered⟩)

end Point

end Inspection
