import Inspection.Evaluation
import Inspection.Proofs.Outcome
import Inspection.Proofs.Table

/-!
# What evaluations work out

An evaluation works out formulas: those of variables, those over one sample, and those over all
samples, each with what names stand for in it (`Point.Works`). All that an evaluation fails with is
told by `Point.Fails`: what is unfit about the request, data or a value that is missing, a formula
that fails or halts, or a rule without an answer (`fails_of_evaluate`).
-/

namespace Inspection

open Formula

/-- A formula of a chain of named formulas, with what names stand for in it: each one sees the
values of those before it. -/
inductive Chain : Bindings → List (String × String) → String → Bindings → Prop
  | head {bindings name text rest} :
    Chain bindings ((name, text) :: rest) text bindings
  | tail {bindings name text rest x text' bindings'} :
    evaluateText bindings text = .ok (.ok x) →
    Chain (bindings.bind name (.float x)) rest text' bindings' →
    Chain bindings ((name, text) :: rest) text' bindings'

/-- A formula that the resolution of some variables works out, after those resolved so far. One that
depends on a variable that failed, or averages an item without data, is not worked out. -/
inductive Resolution.Works (inputs : Inputs) (c : Context) :
    Resolution → List Variable → String → Bindings → Prop
  | head {r : Resolution} {v : Variable} {rest text references} :
    v.kind = .formula →
    v.formula.filter (· ≠ "") = some text →
    Formula.references text = .ok references →
    (∀ n ∈ references.names, r.failures.contains n = false) →
    (∀ n ∈ references.averaged, (c.averaged? n).isSome) →
    Works inputs c r (v :: rest) text (r.bindings c references.averaged)
  | tail {r r' : Resolution} {v : Variable} {rest text bindings} :
    r.step inputs c v = .ok r' →
    Works inputs c r' rest text bindings →
    Works inputs c r (v :: rest) text bindings

/-- A formula over one sample by its name. -/
def SampleFormula.named (f : SampleFormula) : String × String := (f.name, f.formula)

/-- A formula over all samples by its name. -/
def JointFormula.named (f : JointFormula) : String × String := (f.name, f.formula)

/-- Why a variable fails, given the declarations and the formulas that are worked out. -/
inductive VariableCause.From (declarations : List Variable) (works : String → Bindings → Prop) :
    VariableCause → Prop
  | unset {v : Variable} :
    v ∈ declarations → v.kind = .fixed → v.value = none →
    From declarations works .valueMissing
  | notGiven : From declarations works .inputMissing
  | unwritten {v : Variable} :
    v ∈ declarations → v.kind = .formula → v.formula.filter (· ≠ "") = none →
    From declarations works .formulaMissing
  | unread {v : Variable} {text cause} :
    v ∈ declarations → v.kind = .formula → v.formula.filter (· ≠ "") = some text →
    references text = .error cause →
    From declarations works (.formula ⟨text, cause⟩)
  | failed {text bindings failure} :
    works text bindings →
    evaluateText bindings text = .ok (.error failure) →
    From declarations works (.formula failure)
  | blocked {names} : From declarations works (.blocked names)
  | noData {items} : From declarations works (.noData items)

/-- Why a resolution stops before all variables are tried. -/
inductive Resolution.Stops (declarations : List Variable) (works : String → Bindings → Prop) :
    Fault → Prop
  | unworkable {v : Variable} {text o} :
    v ∈ declarations → v.kind = .formula → v.formula.filter (· ≠ "") = some text →
    references text = .error (.unworkable o) →
    Stops declarations works (.ofObstacle o)
  | halted {text bindings fault} :
    works text bindings →
    evaluateText bindings text = .error fault →
    Stops declarations works fault

section

variable {declarations more : List Variable} {works works' : String → Bindings → Prop}

/-- What fails for some declarations and formulas also fails where there are more of them. -/
lemma VariableCause.From.mono {cause : VariableCause} (h : cause.From declarations works)
    (sub : declarations ⊆ more) (le : ∀ text bindings, works text bindings → works' text bindings) :
    cause.From more works' := by
  cases h with
  | unset mem kind none => exact .unset (sub mem) kind none
  | notGiven => exact .notGiven
  | unwritten mem kind none => exact .unwritten (sub mem) kind none
  | unread mem kind given none => exact .unread (sub mem) kind given none
  | failed worked h => exact .failed (le _ _ worked) h
  | blocked => exact .blocked
  | noData => exact .noData

/-- What stops for some declarations and formulas also stops where there are more of them. -/
lemma Resolution.Stops.mono {fault : Fault} (h : Stops declarations works fault)
    (sub : declarations ⊆ more) (le : ∀ text bindings, works text bindings → works' text bindings) :
    Stops more works' fault := by
  cases h with
  | unworkable mem kind given none => exact .unworkable (sub mem) kind given none
  | halted worked h => exact .halted (le _ _ worked) h

end

namespace Resolution

variable {t : Table Float} {c : Context} {r : Resolution}

/-- A formula that the resolution of one variable works out is one that the resolution of more
variables does. -/
lemma Works.first {inputs : Inputs} {v : Variable} {rest : List Variable} {text : String}
    {bindings : Bindings} (h : Works inputs c r [v] text bindings) :
    Works inputs c r (v :: rest) text bindings := by
  cases h with
  | head kind given read free data => exact .head kind given read free data
  | tail _ h => cases h

/-- All that a step can do: it gives the variable a value, notes why it has none, or stops. -/
lemma step_cases (v : Variable) (outcome : Outcome Resolution)
    (h : r.step (.ofTable t) c v = outcome) :
    (∃ x, outcome = .ok (r.succeed v.name x)) ∨
      (∃ cause missing, outcome = .ok (r.fail v.name cause missing) ∧
        cause.From [v] (Works (.ofTable t) c r [v])) ∨
      ∃ fault, outcome = .error fault ∧ Stops [v] (Works (.ofTable t) c r [v]) fault := by
  subst h
  rw [step]
  cases kind : v.kind with
  | fixed =>
    cases value : v.value with
    | some x => exact .inl ⟨x, rfl⟩
    | none => exact .inr (.inl ⟨_, _, rfl, .unset List.mem_cons_self kind value⟩)
  | manual =>
    dsimp only [Inputs.ofTable]
    cases t.find? v.name with
    | some x => exact .inl ⟨x, rfl⟩
    | none => exact .inr (.inl ⟨_, _, rfl, .notGiven⟩)
  | formula =>
    dsimp only
    cases given : v.formula.filter (· ≠ "") with
    | none => exact .inr (.inl ⟨_, _, rfl, .unwritten List.mem_cons_self kind given⟩)
    | some text =>
      dsimp only
      rw [resolveFormula]
      split
      case h_1 o read =>
        exact .inr (.inr ⟨_, rfl, .unworkable List.mem_cons_self kind given read⟩)
      case h_2 cause other read =>
        exact .inr (.inl ⟨_, _, rfl, .unread List.mem_cons_self kind given read⟩)
      case h_3 references read =>
        dsimp only
        split
        case isTrue => exact .inr (.inl ⟨_, _, rfl, .blocked⟩)
        case isFalse free =>
          split
          case isTrue => exact .inr (.inl ⟨_, _, rfl, .noData⟩)
          case isFalse data =>
            have worked : Works (.ofTable t) c r [v] text (r.bindings c references.averaged) := by
              refine .head kind given read ?_ ?_
              · simpa using free
              · simpa [Option.isSome_iff_ne_none] using data
            cases evaluated : evaluateText (r.bindings c references.averaged) text with
            | error fault => exact .inr (.inr ⟨fault, rfl, .halted worked evaluated⟩)
            | ok outcome =>
              cases outcome with
              | ok x => exact .inl ⟨x, rfl⟩
              | error failure => exact .inr (.inl ⟨_, _, rfl, .failed worked evaluated⟩)

/-- What a run can do: it notes failures of its variables after those noted before, or stops. -/
lemma run_cases {vs : List Variable} :
    (∀ r', vs.foldlM (step (.ofTable t) c) r = .ok r' → ∀ failure ∈ r'.failures.values,
      failure ∈ r.failures.values ∨ failure.cause.From vs (Works (.ofTable t) c r vs)) ∧
    ∀ fault, vs.foldlM (step (.ofTable t) c) r = .error fault →
      Stops vs (Works (.ofTable t) c r vs) fault := by
  induction vs generalizing r with
  | nil =>
    constructor
    · intro r' h failure mem
      cases h
      exact .inl mem
    · intro fault h
      cases h
  | cons v rest ih =>
    have sub : rest ⊆ v :: rest := List.subset_cons_self v rest
    have one : [v] ⊆ v :: rest := by simp
    have later {r'} (e : r.step (.ofTable t) c v = .ok r') (text : String) (bindings : Bindings) :
        Works (.ofTable t) c r' rest text bindings →
          Works (.ofTable t) c r (v :: rest) text bindings := .tail e
    rw [List.foldlM_cons]
    rcases step_cases v _ rfl with ⟨x, e⟩ | ⟨cause, missing, e, origin⟩ | ⟨fault, e, stops⟩
    case inl =>
      replace later := later e
      rw [e, ok_bind]
      obtain ⟨noted, stopped⟩ := ih (r := r.succeed v.name x)
      refine ⟨fun r' h failure mem => ?_, fun fault h => (stopped fault h).mono sub later⟩
      obtain old | new := noted r' h failure mem
      · exact .inl old
      · exact .inr (new.mono sub later)
    case inr.inl =>
      replace later := later e
      rw [e, ok_bind]
      obtain ⟨noted, stopped⟩ := ih (r := r.fail v.name cause missing)
      refine ⟨fun r' h failure mem => ?_, fun fault h => (stopped fault h).mono sub later⟩
      obtain old | new := noted r' h failure mem
      · obtain rfl | old := Table.mem_values_insert old
        · exact .inr (origin.mono one fun _ _ => Works.first)
        · exact .inl old
      · exact .inr (new.mono sub later)
    case inr.inr =>
      rw [e, error_bind]
      constructor
      · intro r' h
        cases h
      · intro fault' h
        cases h
        exact stops.mono one fun _ _ => Works.first

end Resolution

namespace Point

/-- The samples that an evaluation takes: those handed in, or those derived from another item. -/
inductive Takes (p : Point) (s : Submission) (c : Context) (complete : Bool) : List Sample → Prop
  | submitted :
    (s.validate p complete).issues = [] →
    s.samples ≠ [] →
    Takes p s c complete s.samples
  | derived {raw} :
    (s.validate p complete).issues = [] →
    s.samples = [] →
    p.setup.source = .derived →
    p.derivedSamples c = .ok raw →
    Takes p s c complete raw

/-- What names stand for in the formulas over a sample before the first is evaluated. -/
def sampleBindings (p : Point) (named : Table Float) (sample : Sample) : Bindings :=
  sample.bindings p.setup.shape fun n => (named.find? n).map .float

/-- The samples with the values of the formulas over them. -/
def processSamples (p : Point) (named : Table Float) (raw : List Sample) :
    Outcome (List SampleResult) :=
  raw.mapM fun sample =>
    sample.process (fun n => (named.find? n).map .float) p.sampleFormulas p.setup.shape
      (some p.name)

/-- The formulas that an evaluation works out, each with what names stand for in it. -/
inductive Works (p : Point) (s : Submission) (c : Context) (complete : Bool) :
    String → Bindings → Prop
  | ofVariable {raw text bindings} :
    p.Takes s c complete raw →
    Resolution.Works (.ofTable s.inputs) c .start p.declarations text bindings →
    Works p s c complete text bindings
  | ofSample {raw named sample text bindings} :
    p.Takes s c complete raw →
    p.resolveVariables s c = .ok named →
    sample ∈ raw →
    Chain (p.sampleBindings named sample) (p.sampleFormulas.map SampleFormula.named) text bindings →
    Works p s c complete text bindings
  | ofJoint {raw named processed setting items text bindings} :
    p.Takes s c complete raw →
    p.resolveVariables s c = .ok named →
    p.processSamples named raw = .ok processed →
    p.strategy = .joint →
    p.setting.joint = some setting →
    jointReferences (p.sampleArrays processed).keys setting.formulas = .ok items →
    Chain (jointBindings (p.sampleArrays processed) items c named)
      (setting.formulas.map JointFormula.named) text bindings →
    Works p s c complete text bindings

/-- All that an evaluation fails with. -/
inductive Fails (p : Point) (s : Submission) (c : Context) (complete : Bool) : Fault → Prop
  | request {defect} : Fails p s c complete (.error (.validation (.text p.name) defect))
  | missingData {items} : Fails p s c complete (.error (.missingDependency p.name items))
  | missingFinal {cause} : Fails p s c complete (.error (.missingFinal (some p.name) cause))
  | unresolved {failures : List VariableFailure} :
    (∀ failure ∈ failures, failure.cause.From p.declarations (p.Works s c complete)) →
    Fails p s c complete (.error (.unresolved (some p.name) failures))
  | stopped {fault} :
    Resolution.Stops p.declarations (p.Works s c complete) fault →
    Fails p s c complete fault
  | unread {setting f failure} :
    p.strategy = .joint → p.setting.joint = some setting → f ∈ setting.formulas →
    referencesOf f.formula = .error failure →
    Fails p s c complete (.ofFailure failure)
  | formula {text bindings failure name} :
    p.Works s c complete text bindings →
    evaluateText bindings text = .ok (.error failure) →
    Fails p s c complete (.ofFailure failure (some p.name) (some name))
  | halted {text bindings fault} :
    p.Works s c complete text bindings →
    evaluateText bindings text = .error fault →
    Fails p s c complete fault
  | unjudged {rule x flaw} :
    p.rule = some rule → Number.isFinite x → rule.admits x = .error flaw →
    Fails p s c complete (.ofRule flaw)

variable {p : Point} {s : Submission} {c : Context} {complete : Bool} {raw : List Sample}
  {named : Table Float} {fault : Fault}

/-- An evaluation that takes samples is that of these samples. -/
lemma Takes.evaluate (takes : p.Takes s c complete raw) :
    p.evaluate s c complete = p.evaluateSamples s c raw := by
  rw [Point.evaluate]
  cases takes with
  | submitted valid given => rw [valid, if_neg (by simp), if_pos (by simpa using given)]
  | derived valid none source derived =>
    rw [valid, if_neg (by simp), if_neg (by simp [none]), source, derived]
    rfl

/-- What the resolution of variables fails with. -/
lemma fails_of_resolve (takes : p.Takes s c complete raw)
    (h : resolve p.declarations (.ofTable s.inputs) c (some p.name) = .error fault) :
    p.Fails s c complete fault := by
  obtain h | ⟨r, resolved, h⟩ := bind_eq_error.1 h
  · exact .stopped ((Resolution.run_cases.2 fault h).mono (List.Subset.refl _) fun _ _ =>
      .ofVariable takes)
  · split at h
    case isTrue => cases h
    case isFalse =>
      cases h
      refine .unresolved fun failure mem => ?_
      obtain old | new := Resolution.run_cases.1 r resolved failure mem
      · cases old
      · exact new.mono (List.Subset.refl _) fun _ _ => .ofVariable takes

/-- What the values of variables fail with: failures for want of data are reported as such. -/
lemma fails_of_resolveVariables (takes : p.Takes s c complete raw)
    (h : p.resolveVariables s c = .error fault) : p.Fails s c complete fault := by
  rw [resolveVariables] at h
  split at h
  case h_1 e resolved =>
    dsimp only at h
    split at h
    case isTrue =>
      cases h
      exact fails_of_resolve takes resolved
    case isFalse =>
      cases h
      exact .missingData
  case h_2 => exact fails_of_resolve takes h

/-- What the formulas over a sample fail with. -/
lemma computeValues_eq_error {bindings : Bindings} {fs : List SampleFormula} {item : Option String}
    (h : Sample.computeValues item bindings fs = .error fault) :
    ∃ text bindings', Chain bindings (fs.map SampleFormula.named) text bindings' ∧
      (evaluateText bindings' text = .error fault ∨ ∃ failure name,
        evaluateText bindings' text = .ok (.error failure) ∧
          fault = .ofFailure failure item (some name)) := by
  induction fs generalizing bindings with
  | nil => cases h
  | cons f rest ih =>
    obtain h | ⟨outcome, evaluated, h⟩ := bind_eq_error.1 h
    · exact ⟨_, _, .head, .inl h⟩
    cases outcome with
    | error failure =>
      cases h
      exact ⟨_, _, .head, .inr ⟨failure, f.name, evaluated, rfl⟩⟩
    | ok x =>
      obtain h | ⟨values, -, h⟩ := bind_eq_error.1 h
      · obtain ⟨text, bindings', chain, failed⟩ := ih h
        exact ⟨text, bindings', .tail evaluated chain, failed⟩
      · cases h

/-- What the formulas over all samples fail with. -/
lemma computeJoint_eq_error {bindings : Bindings} {fs : List JointFormula}
    (h : p.computeJoint bindings fs = .error fault) :
    ∃ text bindings', Chain bindings (fs.map JointFormula.named) text bindings' ∧
      (evaluateText bindings' text = .error fault ∨ ∃ failure name,
        evaluateText bindings' text = .ok (.error failure) ∧
          fault = .ofFailure failure (some p.name) (some name)) := by
  induction fs generalizing bindings with
  | nil => cases h
  | cons f rest ih =>
    obtain h | ⟨outcome, evaluated, h⟩ := bind_eq_error.1 h
    · exact ⟨_, _, .head, .inl h⟩
    cases outcome with
    | error failure =>
      cases h
      exact ⟨_, _, .head, .inr ⟨failure, f.name, evaluated, rfl⟩⟩
    | ok x =>
      obtain h | ⟨values, -, h⟩ := bind_eq_error.1 h
      · obtain ⟨text, bindings', chain, failed⟩ := ih h
        exact ⟨text, bindings', .tail evaluated chain, failed⟩
      · cases h

/-- What processing the samples fails with. -/
lemma fails_of_processSamples (takes : p.Takes s c complete raw)
    (resolved : p.resolveVariables s c = .ok named)
    (h : p.processSamples named raw = .error fault) : p.Fails s c complete fault := by
  obtain ⟨sample, mem, h⟩ := exists_of_mapM_eq_error h
  obtain h | ⟨values, -, h⟩ := bind_eq_error.1 h
  · obtain ⟨text, bindings, chain, failed⟩ := computeValues_eq_error h
    have worked : p.Works s c complete text bindings := .ofSample takes resolved mem chain
    rcases failed with halted | ⟨failure, name, failed, rfl⟩
    · exact .halted worked halted
    · exact .formula worked failed
  · cases h

/-- A rule has no answer only for a finite number, by its own limits. -/
lemma fails_of_accepts {x : Option Float}
    (h : Outcome.of Fault.ofRule (Rule.accepts p.rule x) = .error fault) :
    p.Fails s c complete fault := by
  obtain ⟨flaw, judged, rfl⟩ := Outcome.of_eq_error.1 h
  cases given : p.rule with
  | none =>
    rw [given] at judged
    cases judged
  | some rule =>
    rw [given] at judged
    cases x with
    | none => cases judged
    | some x =>
      rw [Rule.accepts] at judged
      split at judged
      case isTrue finite => exact .unjudged given finite judged
      case isFalse => cases judged

/-- What judging from all samples fails with. -/
lemma fails_of_judgeJoint (takes : p.Takes s c complete raw)
    (resolved : p.resolveVariables s c = .ok named) {processed : List SampleResult}
    (computed : p.processSamples named raw = .ok processed) (strategy : p.strategy = .joint)
    {r : Result} (samples : r.samples = processed) (h : p.judgeJoint c named r = .error fault) :
    p.Fails s c complete fault := by
  subst samples
  rw [judgeJoint] at h
  split at h
  case h_1 =>
    cases h
    exact .missingFinal
  case h_2 setting given =>
    split at h
    case h_1 =>
      cases h
      exact .missingFinal
    case h_2 final _ _ =>
      obtain h | ⟨items, read, h⟩ := bind_eq_error.1 h
      · obtain ⟨failure, unread, rfl⟩ := Outcome.of_eq_error.1 h
        obtain unread | ⟨references, -, e⟩ := bind_eq_error.1 unread
        · obtain ⟨f, mem, unread⟩ := exists_of_mapM_eq_error unread
          exact .unread strategy given mem unread
        · cases e
      · replace read := Outcome.of_eq_ok.1 read
        dsimp only at h
        split at h
        case isTrue =>
          cases h
          exact .missingData
        case isFalse =>
          obtain h | ⟨values, -, h⟩ := bind_eq_error.1 h
          · obtain ⟨text, bindings, chain, failed⟩ := computeJoint_eq_error h
            have worked : p.Works s c complete text bindings :=
              .ofJoint takes resolved computed strategy given read chain
            rcases failed with halted | ⟨failure, name, failed, rfl⟩
            · exact .halted worked halted
            · exact .formula worked failed
          · split at h
            case h_1 =>
              cases h
              exact .missingFinal
            case h_2 =>
              obtain h | ⟨status, -, h⟩ := bind_eq_error.1 h
              · exact fails_of_accepts h
              · cases h

/-- What judging sample by sample fails with. -/
lemma fails_of_judgeSamples {r : Result} (h : p.judgeSamples r = .error fault) :
    p.Fails s c complete fault := by
  rw [judgeSamples] at h
  split at h
  case h_1 =>
    cases h
    exact .request
  case h_2 setting _ =>
    obtain h | ⟨samples, -, h⟩ := bind_eq_error.1 h
    · obtain ⟨sample, -, h⟩ := exists_of_mapM_eq_error h
      obtain h | ⟨status, -, h⟩ := bind_eq_error.1 h
      · exact fails_of_accepts h
      · cases h
    · cases h

/-- What an evaluation of samples fails with. -/
lemma fails_of_evaluateSamples (takes : p.Takes s c complete raw)
    (h : p.evaluateSamples s c raw = .error fault) : p.Fails s c complete fault := by
  obtain h | ⟨named, resolved, h⟩ := bind_eq_error.1 h
  · exact fails_of_resolveVariables takes h
  obtain h | ⟨processed, computed, h⟩ := bind_eq_error.1 h
  · exact fails_of_processSamples takes resolved h
  rw [judge] at h
  split at h
  case h_1 => exact fails_of_judgeSamples h
  case h_2 strategy => exact fails_of_judgeJoint takes resolved computed strategy rfl h
  case h_3 => cases h

/-- What an evaluation fails with. -/
theorem fails_of_evaluate (h : p.evaluate s c complete = .error fault) :
    p.Fails s c complete fault := by
  rw [evaluate] at h
  split at h
  case isTrue =>
    cases h
    exact .request
  case isFalse valid =>
    replace valid : (s.validate p complete).issues = [] := by simpa using valid
    split at h
    case isTrue given => exact fails_of_evaluateSamples (.submitted valid (by simpa using given)) h
    case isFalse none =>
      split at h
      case h_1 =>
        cases h
        exact .request
      case h_2 => cases h
      case h_3 source =>
        obtain h | ⟨raw, derived, h⟩ := bind_eq_error.1 h
        · rw [derivedSamples] at h
          split at h
          case isTrue =>
            cases h
            exact .missingData
          case isFalse => cases h
        · exact fails_of_evaluateSamples (.derived valid (by simpa using none) source derived) h

end Point

end Inspection
