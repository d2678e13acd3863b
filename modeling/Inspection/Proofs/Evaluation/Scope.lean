import Inspection.Proofs.Evaluation.Formulas
import Inspection.Proofs.Evaluation.Results
import Inspection.Proofs.Formula.Halting

/-!
# Scopes of formulas

What the checks of a product make sure of about the names in its formulas. A formula of a variable
reads variables declared before it (`Resolution.Works.bound`), one over a sample the raw numbers,
the variables and the formulas before it, and one over all samples arrays, variables and the
formulas before it (`Chain.bound`). So each formula that an evaluation works out can be read and has
all its names bound (`Works.bound`), and no evaluation fails for a cause that the checks could have
found (`evaluate_in_scope`).
-/

namespace Inspection

open Formula

/-- Whether a cause is one that the checks of a product look for. -/
def VariableCause.isScoping : VariableCause → Bool
  | valueMissing | formulaMissing => true
  | formula failure => failure.cause.isScoping
  | _ => false

/-- Whether a fault has a cause that the checks of a product look for: a formula that cannot be read
or reads a name that is not bound, or a variable without its value or formula. -/
def Fault.isScoping : Fault → Bool
  | error (.expression _ _ _ cause) => cause.isScoping
  | error (.unresolved _ failures) => failures.any fun failure => failure.cause.isScoping
  | value .nullCharacter | tooDeep => true
  | _ => false

/-- The formula of a text can be read, and every name that it mentions is bound. -/
def Bound (bindings : Bindings) (text : String) : Prop :=
  ∃ r, references text = .ok r ∧ ∀ n, r.Mentions n → (bindings n).isSome

/-- Each of some named formulas can be read, reads the available names and those of the formulas
before it, and averages allowed names only. -/
def ReadsOnly (averages : String → Prop) : List String → List (String × String) → Prop
  | _, [] => True
  | available, (name, text) :: rest =>
    (∃ r, references text = .ok r ∧ (∀ n ∈ r.names, n ∈ available) ∧ ∀ n ∈ r.averaged, averages n) ∧
      ReadsOnly averages (addNew available name) rest

/-- A name stays bound when another is. -/
lemma isSome_bind {bindings : Bindings} {n name : String} {value : Binding}
    (h : (bindings n).isSome) : (bindings.bind name value n).isSome := by
  rw [Bindings.bind]
  split
  case isTrue => rfl
  case isFalse => exact h

/-- In a chain of formulas that read only what is available or comes before them, all names are
bound. -/
lemma Chain.bound {averages : String → Prop} {available : List String}
    {bindings bindings' : Bindings} {fs : List (String × String)} {text : String}
    (only : ReadsOnly averages available fs)
    (bound : ∀ n ∈ available, (bindings n).isSome)
    (averaged : ∀ n, averages n → (bindings n).isSome) (chain : Chain bindings fs text bindings') :
    Bound bindings' text := by
  induction chain generalizing available with
  | head =>
    obtain ⟨⟨r, read, names, samples⟩, -⟩ := only
    refine ⟨r, read, fun n mention => ?_⟩
    cases mention with
    | inl mem => exact bound n (names n mem)
    | inr mem => exact averaged n (samples n mem)
  | @tail bindings name text rest x text' bindings' _ _ ih =>
    refine ih only.2 ?_ fun n allowed => isSome_bind (averaged n allowed)
    intro n mem
    obtain old | rfl := mem_addNew.1 mem
    · exact isSome_bind (bound n old)
    · simp [Bindings.bind]

/-- The formula of a variable without issues reads variables declared before it. -/
lemma Point.declared_of_variableIssues {p : Point} {declared : List String} {v : Variable}
    (h : p.variableIssues declared v = []) (kind : v.kind = .formula) {text : String}
    (given : v.formula.filter (· ≠ "") = some text) {r : References}
    (read : references text = .ok r) : ∀ n ∈ r.names, n ∈ declared := by
  rw [variableIssues, kind, given, List.append_eq_nil_iff] at h
  replace h := h.2
  dsimp only at h
  rw [read] at h
  dsimp only at h
  rw [mentionIssues, List.append_eq_nil_iff, List.filterMap_eq_nil_iff] at h
  intro n mem
  by_contra unknown
  have none := h.1 n mem
  rw [if_pos unknown] at none
  split at none <;> cases none

namespace Resolution

/-- Every declared variable has a value or has failed. -/
def Covers (r : Resolution) (declared : List String) : Prop :=
  ∀ n ∈ declared, (r.resolved.find? n).isSome ∨ r.failures.contains n

variable {t : Table Float} {c : Context} {r r' : Resolution} {declared : List String}

/-- After a step its variable is covered too. -/
lemma Covers.step (covers : r.Covers declared) {v : Variable}
    (h : r.step (.ofTable t) c v = .ok r') : r'.Covers (addNew declared v.name) := by
  intro n mem
  replace mem := mem_addNew.1 mem
  rcases step_cases v _ h with ⟨x, e⟩ | ⟨cause, missing, e, -⟩ | ⟨fault, e, -⟩
  · cases e
    rw [succeed, Table.find?_insert]
    by_cases own : n = v.name
    · simp [own]
    · rw [if_neg own]
      exact covers n (mem.resolve_right own)
  · cases e
    rw [fail, Table.contains, Table.find?_insert]
    by_cases own : n = v.name
    · simp [own]
    · rw [if_neg own]
      exact covers n (mem.resolve_right own)
  · cases e

/-- After a run all its variables are covered too. -/
lemma Covers.run {vs : List Variable} (covers : r.Covers declared)
    (h : vs.foldlM (Resolution.step (.ofTable t) c) r = .ok r') :
    r'.Covers (declared ++ vs.map Variable.name) := by
  induction vs generalizing r declared with
  | nil =>
    cases h
    simpa using covers
  | cons v rest ih =>
    rw [List.foldlM_cons] at h
    obtain ⟨r₁, first, h⟩ := bind_eq_ok.1 h
    have later := ih (covers.step first) h
    intro n mem
    apply later
    rw [List.map_cons, List.mem_append, List.mem_cons] at mem
    rw [List.mem_append, mem_addNew]
    tauto

/-- A formula of variables without issues that is worked out has all its names bound. -/
lemma Works.bound {p : Point} {vs : List Variable} {text : String} {bindings : Bindings}
    (only : p.variablesIssues declared vs = []) (covers : r.Covers declared)
    (worked : Works (.ofTable t) c r vs text bindings) : Bound bindings text := by
  induction worked generalizing declared with
  | @head r v rest text references kind given read free data =>
    refine ⟨references, read, fun n mention => ?_⟩
    rw [Resolution.bindings]
    by_cases averaged : n ∈ references.averaged
    · rw [if_pos averaged]
      obtain ⟨samples, found⟩ := Option.isSome_iff_exists.1 (data n averaged)
      rw [found]
      rfl
    · rw [if_neg averaged]
      have name : n ∈ references.names := mention.resolve_right averaged
      have known : n ∈ declared := by
        rw [Point.variablesIssues, List.append_eq_nil_iff, List.map_eq_nil_iff] at only
        exact Point.declared_of_variableIssues only.1 kind given read n name
      have value : (r.resolved.find? n).isSome := by
        refine (covers n known).resolve_right ?_
        rw [free n name]
        exact Bool.false_ne_true
      simpa using value
  | tail step _ ih =>
    rw [Point.variablesIssues, List.append_eq_nil_iff] at only
    exact ih only.2 (covers.step step)

end Resolution

namespace Point

variable {p : Point} {s : Submission} {c : Context} {complete : Bool} {raw : List Sample}
  {named : Table Float}

/-- Formulas over one sample without issues read only what is available, and average nothing. -/
lemma readsOnly_of_sampleFormulasIssues {available : List String} {fs : List SampleFormula}
    (h : sampleFormulasIssues available fs = []) :
    ReadsOnly (fun _ => False) available (fs.map SampleFormula.named) := by
  induction fs generalizing available with
  | nil => exact trivial
  | cons f rest ih =>
    rw [sampleFormulasIssues, List.append_eq_nil_iff, List.map_eq_nil_iff, sampleFormulaIssues,
      List.append_eq_nil_iff] at h
    obtain ⟨⟨mentions, -⟩, later⟩ := h
    refine ⟨?_, ih later⟩
    split at mentions
    case h_1 => cases mentions
    case h_2 r read =>
      rw [List.append_eq_nil_iff, List.filterMap_eq_nil_iff, List.map_eq_nil_iff] at mentions
      obtain ⟨names, averaged⟩ := mentions
      refine ⟨r, read, ?_, ?_⟩
      · intro n mem
        by_contra unknown
        have none := names n mem
        rw [if_pos unknown] at none
        cases none
      · intro n mem
        rw [averaged] at mem
        cases mem

/-- Formulas over all samples without issues read only what is available. -/
lemma readsOnly_of_jointFormulasIssues {averages : String → Prop} {available : List String}
    {fs : List JointFormula} (h : jointFormulasIssues available fs = [])
    (averaged : ∀ f ∈ fs, ∀ r, references f.formula = .ok r → ∀ n ∈ r.averaged, averages n) :
    ReadsOnly averages available (fs.map JointFormula.named) := by
  induction fs generalizing available with
  | nil => exact trivial
  | cons f rest ih =>
    rw [jointFormulasIssues, List.append_eq_nil_iff, List.map_eq_nil_iff, jointFormulaIssues] at h
    obtain ⟨mentions, later⟩ := h
    refine ⟨?_, ih later fun f mem => averaged f (List.mem_cons_of_mem _ mem)⟩
    split at mentions
    case h_1 => cases mentions
    case h_2 r read =>
      rw [List.filterMap_eq_nil_iff] at mentions
      refine ⟨r, read, ?_, averaged f List.mem_cons_self r read⟩
      intro n mem
      by_contra unknown
      have none := mentions n mem
      rw [if_pos unknown] at none
      cases none

/-- Where variables resolve, each has a value. -/
lemma isSome_of_resolveVariables (h : p.resolveVariables s c = .ok named) {n : String}
    (declared : n ∈ p.variableNames) : (named.find? n).isSome := by
  rw [resolveVariables] at h
  split at h
  case h_1 =>
    dsimp only at h
    split at h <;> cases h
  case h_2 =>
    obtain ⟨r, resolved, h⟩ := bind_eq_ok.1 h
    split at h
    case isFalse => cases h
    case isTrue none =>
      cases h
      have start : Resolution.Covers .start [] := by simp [Resolution.Covers]
      refine (start.run resolved n (by simpa using List.mem_map.1 declared)).resolve_right ?_
      rw [Table.contains, Table.find?, List.isEmpty_iff.1 none]
      exact Bool.false_ne_true

/-- A sample of the shape that a measured point asks for has its raw numbers. -/
lemma isSome_rawNumbers {sample : Sample} (valid : sample.issues p.setup = [])
    (measured : p.setup.nature = .quantitative) {n : String} (mem : n ∈ p.setup.shape.rawNames) :
    ((sample.rawNumbers p.setup.shape).lookup n).isSome := by
  rw [Sample.issues, measured, List.append_eq_nil_iff] at valid
  replace valid := valid.2
  cases shape : p.setup.shape with
  | single =>
    rw [shape] at valid mem
    obtain rfl : n = "single_value" := List.mem_singleton.1 mem
    cases value : sample.single with
    | none => simp [value] at valid
    | some x => simp [Sample.rawNumbers, value]
  | beforeAfter =>
    rw [shape] at valid mem
    cases value : sample.pair with
    | none => simp [value] at valid
    | some pair =>
      obtain rfl | rfl : n = "before" ∨ n = "after" := by simpa [SampleShape.rawNames] using mem
      · simp [Sample.rawNumbers, value]
      · simp [Sample.rawNumbers, value, List.lookup_cons]

/-- The samples that an evaluation of a sound measured point takes have their raw numbers. -/
lemma Takes.isSome_rawNumbers (takes : p.Takes s c complete raw) (sound : p.Sound)
    (measured : p.setup.nature = .quantitative) {sample : Sample} (mem : sample ∈ raw) {n : String}
    (name : n ∈ p.setup.shape.rawNames) :
    ((sample.rawNumbers p.setup.shape).lookup n).isSome := by
  cases takes with
  | submitted valid _ =>
    rw [Submission.validate, List.append_eq_nil_iff, List.append_eq_nil_iff] at valid
    exact Point.isSome_rawNumbers (issues_of_sampleIssues valid.1.2 sample mem) measured name
  | derived _ _ source derived =>
    obtain ⟨-, -, shape, -⟩ := sound.ofDerived source
    obtain ⟨values, -, rfl⟩ := derivedSamples_eq_ok derived
    rw [shape] at name ⊢
    obtain rfl : n = "single_value" := List.mem_singleton.1 name
    obtain ⟨x, value⟩ := Option.isSome_iff_exists.1 (single_of_numbered mem)
    simp [Sample.rawNumbers, value]

/-- The names that the formulas over a sample may read are bound. -/
lemma isSome_sampleBindings (takes : p.Takes s c complete raw) (sound : p.Sound)
    (measured : p.setup.nature = .quantitative) (resolved : p.resolveVariables s c = .ok named)
    {sample : Sample} (mem : sample ∈ raw) {n : String}
    (name : n ∈ p.setup.shape.rawNames ++ p.variableNames) :
    (p.sampleBindings named sample n).isSome := by
  rw [sampleBindings, Sample.bindings]
  split
  case h_1 => rfl
  case h_2 none =>
    rcases List.mem_append.1 name with name | name
    · have some := takes.isSome_rawNumbers sound measured mem name
      rw [none] at some
      cases some
    · simpa using isSome_of_resolveVariables resolved name

/-- The names that the formulas over all samples may read are bound. -/
lemma isSome_jointBindings (resolved : p.resolveVariables s c = .ok named)
    {processed : List SampleResult} {items : List String} {n : String}
    (name : n ∈ p.variableNames ++ p.arrayNames ∨ n ∈ items) :
    (jointBindings (p.sampleArrays processed) items c named n).isSome := by
  rw [jointBindings]
  split
  case h_1 => rfl
  case h_2 none =>
    by_cases item : n ∈ items
    · rw [if_pos item]
      rfl
    · rw [if_neg item]
      rcases List.mem_append.1 (name.resolve_right item) with name | name
      · simpa using isSome_of_resolveVariables resolved name
      · have there : n ∈ (p.sampleArrays processed).keys := mem_keys_sampleArrays.2 name
        exact absurd there (Table.find?_eq_none.1 none)

/-- What formulas over all samples average is an array of the point or one of the other items. -/
lemma averaged_of_jointReferences {arrays items : List String} {fs : List JointFormula}
    (h : jointReferences arrays fs = .ok items) {f : JointFormula} (mem : f ∈ fs) {r : References}
    (read : references f.formula = .ok r) {n : String} (averaged : n ∈ r.averaged) :
    n ∈ arrays ∨ n ∈ items := by
  by_cases local' : n ∈ arrays
  · exact .inl local'
  · exact .inr ((mem_jointReferences h).2 ⟨f, mem, r, read, averaged, local'⟩)

/-- Each formula that an evaluation of a point without issues works out can be read, and every name
that it mentions is bound. -/
theorem Works.bound (fine : p.issues = []) (measured : p.setup.nature = .quantitative)
    {text : String} {bindings : Bindings} (worked : p.Works s c complete text bindings) :
    Bound bindings text := by
  have sound := sound_of_issues fine
  simp only [issues, List.append_eq_nil_iff] at fine
  obtain ⟨⟨⟨-, declared⟩, formulas⟩, setting⟩ := fine
  cases worked with
  | ofVariable takes worked =>
    exact worked.bound declared (by simp [Resolution.Covers])
  | ofSample takes resolved mem chain =>
    refine chain.bound (readsOnly_of_sampleFormulasIssues formulas) ?_ fun _ none => none.elim
    intro n name
    exact isSome_sampleBindings takes sound measured resolved mem name
  | @ofJoint raw named processed given items text bindings takes resolved computed strategy hs read
      chain =>
    rw [settingIssues, strategy, hs] at setting
    dsimp only at setting
    split at setting
    case isTrue => cases setting
    case isFalse =>
      rw [List.append_eq_nil_iff] at setting
      refine @Chain.bound (fun n => n ∈ (p.sampleArrays processed).keys ∨ n ∈ items) _ _ _ _ _
        (readsOnly_of_jointFormulasIssues setting.2 ?_) ?_ ?_ chain
      · intro f mem r readable n averaged
        exact averaged_of_jointReferences read mem readable averaged
      · intro n name
        exact isSome_jointBindings resolved (.inl name)
      · intro n averaged
        rw [mem_keys_sampleArrays] at averaged
        exact isSome_jointBindings resolved (averaged.imp_left (List.mem_append_right _))

/-- A sound variable does not fail for a cause of scope. -/
lemma not_scoping_of_from (fine : p.issues = []) {works : String → Bindings → Prop}
    (bound : ∀ text bindings, works text bindings → Bound bindings text) {cause : VariableCause}
    (origin : cause.From p.declarations works) : cause.isScoping = false := by
  have sound := sound_of_issues fine
  simp only [issues, List.append_eq_nil_iff] at fine
  cases origin with
  | @unset v mem kind none =>
    obtain ⟨before, own⟩ := variableIssues_of_mem fine.1.1.2 mem
    rw [variableIssues, kind, none, List.append_eq_nil_iff] at own
    cases own.2
  | notGiven => rfl
  | @unwritten v mem kind none =>
    obtain ⟨before, own⟩ := variableIssues_of_mem fine.1.1.2 mem
    rw [variableIssues, kind, none, List.append_eq_nil_iff] at own
    cases own.2
  | unread mem kind given unread =>
    obtain ⟨r, read, -⟩ := sound.ofVariables _ mem kind _ given
    rw [read] at unread
    cases unread
  | failed worked h =>
    obtain ⟨r, read, names⟩ := bound _ _ worked
    exact evaluateText_in_scope read names h
  | blocked => rfl
  | noData => rfl

/-- What halts a formula that is not a failure is not about scope. -/
lemma not_scoping_of_evaluateText {bindings : Bindings} {text : String} {fault : Fault}
    (h : evaluateText bindings text = .error fault) : fault.isScoping = false := by
  rw [evaluateText] at h
  split at h
  case h_1 => cases h
  case h_2 => cases h
  case h_3 halt other _ =>
    cases h
    cases halt with
    | failure cause => exact absurd rfl (other cause)
    | hugeInteger => rfl
    | unreadable text =>
      cases text with
      | none => rfl
      | some t => rfl

/-- A formula's failure for a cause that is not about scope is no fault of scope. -/
lemma not_scoping_of_ofFailure {failure : Failure} {item name : Option String}
    (h : failure.cause.isScoping = false) :
    (Fault.ofFailure failure item name).isScoping = false := by
  rw [Fault.ofFailure]
  split
  case h_1 o cause =>
    rw [cause] at h
    cases h
  case h_2 => exact h

end Point

open Point in
/-- **Checked products stay in scope.** No evaluation of a measured point of an accepted product
fails because a formula cannot be read, because it reads a name that is not bound, or because a
variable lacks its value or formula; each formula that is worked out can be read, and every name
that it mentions is bound. -/
theorem evaluate_in_scope {product : Product} (accepted : product.check = .ok product) {p : Point}
    (mem : p ∈ product.points) (measured : p.setup.nature = .quantitative) (s : Submission)
    (c : Context) (complete : Bool) :
    (∀ fault, p.evaluate s c complete = .error fault → fault.isScoping = false) ∧
      ∀ text bindings, p.Works s c complete text bindings →
        ∃ r, references text = .ok r ∧ ∀ n, r.Mentions n → (bindings n).isSome := by
  have fine : p.issues = [] := Product.issues_of_mem (Product.issues_of_check accepted).2 mem
  have sound := sound_of_issues fine
  have bound : ∀ text bindings, p.Works s c complete text bindings → Bound bindings text :=
    fun text bindings worked => worked.bound fine measured
  refine ⟨fun fault h => ?_, bound⟩
  have fails := fails_of_evaluate h
  clear h
  cases fails with
  | request => rfl
  | missingData => rfl
  | missingFinal => rfl
  | unresolved origins =>
    rw [Fault.isScoping, List.any_eq_false]
    intro failure mem
    rw [not_scoping_of_from fine bound (origins failure mem)]
    exact Bool.false_ne_true
  | stopped stops =>
    cases stops with
    | unworkable mem kind given unread =>
      obtain ⟨r, read, -⟩ := sound.ofVariables _ mem kind _ given
      rw [read] at unread
      cases unread
    | halted _ h => exact not_scoping_of_evaluateText h
  | unread strategy given mem unread =>
    obtain ⟨r, read⟩ := sound.ofJoint strategy _ given _ mem
    rw [referencesOf_eq_ok.2 read] at unread
    cases unread
  | formula worked h =>
    obtain ⟨r, read, names⟩ := bound _ _ worked
    exact not_scoping_of_ofFailure (evaluateText_in_scope read names h)
  | halted _ h => exact not_scoping_of_evaluateText h
  | @unjudged rule x flaw _ _ _ =>
    cases flaw with
    | undefined => rfl
    | hugeInteger => rfl

namespace Gauge

/-- A point with formulas of each kind: the readings are corrected by twice the slack that is handed
in, and their average is judged. -/
def point : Point where
  name := "gap"
  setup := ⟨none, .quantitative, .single, .manual, none, ⟨1, Nat.one_pos⟩⟩
  declarations := [⟨"slack", .manual, none, none⟩, ⟨"offset", .formula, none, some "2 * slack"⟩]
  sampleFormulas := [⟨"total", "single_value + offset", true⟩]
  strategy := .joint
  setting := ⟨none, some ⟨[⟨"mean", "AVG(total)", false⟩, ⟨"gain", "mean / offset", true⟩]⟩, none⟩
  rule := some ⟨.min, 0.0, "mm", none, none⟩

/-- A gauge with the point. -/
def product : Product where
  id := "gauge"
  name := "Gauge"
  category := none
  description := none
  points := [point]
  groups := []

/-- The formulas of a gauge read no other item. -/
lemma cycle?_product : product.readingGraph.cycle? = none := by
  have keys : product.readingGraph.keys = ["gap"] := by decide +kernel
  have gap : product.readingGraph.find? "gap" = some [] := by decide +kernel
  simp [Graph.cycle?, Graph.visitAll, Graph.visit_eq, keys, gap, Except.map]

/-- A gauge is accepted. -/
lemma accepted : product.check = .ok product := by
  have fine : product.issues = [] := by
    simp only [Product.issues, cycle?_product]
    decide +kernel
  rw [Product.check, fine]
  rfl

/-- A slack and one reading. -/
def submission : Submission :=
  ⟨"gap", .ofList [("slack", 0.25)], [⟨⟨1, Nat.one_pos⟩, some 1.5, none, none⟩]⟩

/-- The offset of a gauge is worked out, and what it reads is bound. -/
theorem offset_in_scope : product.check = .ok product ∧ point ∈ product.points ∧
    point.setup.nature = .quantitative ∧
    ∃ bindings, point.Works submission .empty true "2 * slack" bindings ∧
      ∃ r, references "2 * slack" = .ok r ∧ ∀ n, r.Mentions n → (bindings n).isSome := by
  have mem : point ∈ product.points := List.mem_cons_self
  have takes : point.Takes submission .empty true submission.samples :=
    .submitted (by decide +kernel) (by simp [submission])
  have read : references "2 * slack" = .ok ⟨["slack"], [], []⟩ := by decide +kernel
  have given : Resolution.start.step (.ofTable submission.inputs) .empty
      ⟨"slack", .manual, none, none⟩ = .ok (.succeed .start "slack" 0.25) := by rfl
  have works := Point.Works.ofVariable (p := point) takes
    (.tail given (.head rfl rfl read
      (by simp [Resolution.succeed, Resolution.start, Table.contains]) (by simp)))
  obtain ⟨-, bound⟩ := evaluate_in_scope accepted mem rfl submission .empty true
  exact ⟨accepted, mem, rfl, _, works, bound _ _ works⟩

end Gauge

end Inspection
