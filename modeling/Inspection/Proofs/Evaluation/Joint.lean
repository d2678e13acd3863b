import Inspection.Proofs.Evaluation.Scope

/-!
# Formulas over all samples

Formulas over all samples are computed in order, each from the values of those before it
(`computeJoint_eq_ok`), and one of the values is judged (`judgeJoint_eq_ok`). It is the first one
under the name of the formula that is marked as final, so the marked formula decides unless one
before it bears its name (`final_formula_decides`). Nothing keeps a product from having such
formulas, and then the verdict may be another one (`Strip.final_formula_may_not_decide`).
-/

namespace Inspection

open Formula

/-- The bindings with values of formulas, each under the name of its formula; a later one goes
before an older one of its name. -/
def Formula.Bindings.bindValues (bindings : Bindings) (values : List JointValue) : Bindings :=
  values.foldl (fun b v => b.bind v.name (.float v.value)) bindings

/-- The formula whose value it is. -/
def JointValue.origin (v : JointValue) : JointFormula :=
  ⟨v.name, v.formula, v.isFinal⟩

namespace Point

variable {p : Point} {s : Submission} {c : Context} {complete : Bool} {named : Table Float}

/-- The values of formulas are one for each, in order, computed from the values before it. -/
lemma computeJoint_eq_ok {bindings : Bindings} {fs : List JointFormula} {values : List JointValue} :
    p.computeJoint bindings fs = .ok values ↔
      values.map JointValue.origin = fs ∧ ∀ before v after, values = before ++ v :: after →
        evaluateText (bindings.bindValues before) v.formula = .ok (.ok v.value) := by
  induction fs generalizing bindings values with
  | nil =>
    rw [computeJoint]
    constructor
    · intro h
      cases h
      simp
    · rintro ⟨h, -⟩
      rw [List.map_eq_nil_iff.1 h]
  | cons f rest ih =>
    constructor
    · intro h
      obtain ⟨outcome, evaluated, h⟩ := bind_eq_ok.1 h
      cases outcome with
      | error failure => cases h
      | ok x =>
        obtain ⟨others, computed, h⟩ := bind_eq_ok.1 h
        cases pure_eq_ok.1 h
        obtain ⟨origins, each⟩ := ih.1 computed
        refine ⟨by rw [List.map_cons, origins, JointValue.origin], fun before v after split => ?_⟩
        cases before with
        | nil =>
          cases split
          exact evaluated
        | cons first before =>
          obtain ⟨own, later⟩ := List.cons.inj split
          cases own
          exact each before v after later
    · rintro ⟨origins, each⟩
      cases values with
      | nil => cases origins
      | cons v others =>
        obtain ⟨own, further⟩ := List.cons.inj origins
        cases own
        have later : p.computeJoint (bindings.bind v.name (.float v.value)) rest = .ok others := by
          refine ih.2 ⟨further, fun before w after split => ?_⟩
          exact each (v :: before) w after (by rw [split, List.cons_append])
        have first : evaluateText bindings v.formula = .ok (.ok v.value) := each [] v others rfl
        exact bind_eq_ok.2 ⟨_, first, bind_eq_ok.2 ⟨_, later, rfl⟩⟩

/-- How formulas over all samples come to a verdict: every other item that they average has data,
they are all computed, and the rule takes the first value under the name of the first formula that
is marked as final. -/
lemma judgeJoint_eq_ok {r r' : Result} (h : p.judgeJoint c named r = .ok r') :
    ∃ setting final more items values v status,
      p.setting.joint = some setting ∧ setting.finals = final :: more ∧
      jointReferences (p.sampleArrays r.samples).keys setting.formulas = .ok items ∧
      (∀ n ∈ items, c.values n ≠ []) ∧
      p.computeJoint (jointBindings (p.sampleArrays r.samples) items c named) setting.formulas =
        .ok values ∧
      (values.find? fun v => v.name = final.name) = some v ∧
      Rule.accepts p.rule (some v.value) = .ok status ∧
      r' = { r with jointValues := values, finalValue := some v.value, status := some status } := by
  rw [judgeJoint] at h
  split at h
  case h_1 => cases h
  case h_2 setting given =>
    split at h
    case h_1 => cases h
    case h_2 final more finals =>
      obtain ⟨items, read, h⟩ := bind_eq_ok.1 h
      dsimp only at h
      split at h
      case isTrue => cases h
      case isFalse data =>
        obtain ⟨values, computed, h⟩ := bind_eq_ok.1 h
        split at h
        case h_1 => cases h
        case h_2 v found =>
          obtain ⟨status, judged, h⟩ := bind_eq_ok.1 h
          refine ⟨setting, final, more, items, values, v, status, given, finals,
            Outcome.of_eq_ok.1 read, ?_, computed, found, Outcome.of_eq_ok.1 judged,
            (pure_eq_ok.1 h).symm⟩
          simpa [List.filter_eq_nil_iff] using data

/-- A result with a status is that of some samples. -/
lemma takes_of_status {r : Result} (h : p.evaluate s c complete = .ok r)
    (judged : r.status.isSome) :
    ∃ raw, p.Takes s c complete raw ∧ p.evaluateSamples s c raw = .ok r := by
  obtain ⟨valid, ⟨given, e⟩ | ⟨-, -, rfl⟩ | ⟨none, source, raw, found, e⟩⟩ := evaluate_eq_ok.1 h
  · exact ⟨_, .submitted valid given, e⟩
  · cases judged
  · exact ⟨raw, .derived valid none source found, e⟩

/-- The formula that is marked as final is the only one in a point without issues. -/
lemma finals_of_issues (fine : p.issues = []) (strategy : p.strategy = .joint)
    {setting : JointSetting} (given : p.setting.joint = some setting) {f : JointFormula}
    (marked : f ∈ setting.finals) : setting.finals = [f] := by
  simp only [issues, List.append_eq_nil_iff] at fine
  obtain ⟨-, settled⟩ := fine
  rw [settingIssues, strategy, given] at settled
  dsimp only at settled
  split at settled
  case isTrue => cases settled
  case isFalse =>
    rw [List.append_eq_nil_iff] at settled
    cases finals : setting.finals with
    | nil => simp [finals] at marked
    | cons g more =>
      cases more with
      | nil =>
        rw [finals, List.mem_singleton] at marked
        rw [marked]
      | cons g' more => simp [finals] at settled

/-- The values of formulas over all samples in a result of the point: one for each formula, computed
from what the evaluation sees and from the values before it. -/
structure Computes (p : Point) (s : Submission) (c : Context) (setting : JointSetting)
    (r : Result) : Prop where
  origins : r.jointValues.map JointValue.origin = setting.formulas
  computed : ∃ named items, p.resolveVariables s c = .ok named ∧
    jointReferences (p.sampleArrays r.samples).keys setting.formulas = .ok items ∧
    ∀ before v after, r.jointValues = before ++ v :: after →
      evaluateText ((jointBindings (p.sampleArrays r.samples) items c named).bindValues before)
        v.formula = .ok (.ok v.value)

/-- The first value under a formula's name is that of the only final formula just if that formula is
the first one of its name. -/
lemma Computes.first_iff {setting : JointSetting} {r : Result} (computes : p.Computes s c setting r)
    {f : JointFormula} (final : setting.finals = [f]) {v : JointValue}
    (found : (r.jointValues.find? fun v => v.name = f.name) = some v) :
    (setting.formulas.find? fun g => g.name = f.name) = some f ↔
      r.jointValues.filter JointValue.isFinal = [v] := by
  -- values stand in the order of their formulas, so the first of a name belongs to the first
  have first : (setting.formulas.find? fun g => g.name = f.name) = some v.origin := by
    have same : ((fun g : JointFormula => decide (g.name = f.name)) ∘ JointValue.origin) =
        fun v : JointValue => decide (v.name = f.name) := rfl
    rw [← computes.origins, List.find?_map, same, found]
    rfl
  have marked : (r.jointValues.filter JointValue.isFinal).map JointValue.origin = [f] := by
    rw [← final, JointSetting.finals, ← computes.origins, List.filter_map]
    rfl
  rw [first, Option.some.injEq]
  constructor
  · intro own
    obtain ⟨w, only, origin⟩ := List.map_eq_singleton_iff.1 marked
    have isFinal : v.isFinal = true := by
      have mem : f ∈ setting.finals := by simp [final]
      rw [JointSetting.finals, List.mem_filter, ← own] at mem
      exact mem.2
    have mem : v ∈ r.jointValues.filter JointValue.isFinal :=
      List.mem_filter.2 ⟨List.mem_of_find?_eq_some found, isFinal⟩
    rw [only, List.mem_singleton] at mem
    rw [only, mem]
  · intro only
    rw [only] at marked
    exact List.singleton_inj.1 marked

end Point

/-- **The final formula decides if it is the first of its name.** Where a point of an accepted
product that is judged from all samples comes to a status, its formulas are computed in order, and
the final value, which the rule turns into the status, is the first one under the name of the
formula that is marked as final. So it is the value of the marked formula, the only one that is
marked in the result, just if no formula before it bears its name. -/
theorem final_formula_decides {product : Product} (accepted : product.check = .ok product)
    {p : Point} (mem : p ∈ product.points) (strategy : p.strategy = .joint) {setting : JointSetting}
    (given : p.setting.joint = some setting) {f : JointFormula} (marked : f ∈ setting.finals)
    {s : Submission} {c : Context} {complete : Bool} {r : Result}
    (h : p.evaluate s c complete = .ok r) (judged : r.status.isSome) :
    p.Computes s c setting r ∧ ∃ v status,
      (r.jointValues.find? fun v => v.name = f.name) = some v ∧
      r.finalValue = some v.value ∧
      Rule.accepts p.rule (some v.value) = .ok status ∧
      r.status = some status ∧
      ((setting.formulas.find? fun g => g.name = f.name) = some f ↔
        r.jointValues.filter JointValue.isFinal = [v]) := by
  have fine : p.issues = [] := Product.issues_of_mem (Product.issues_of_check accepted).2 mem
  have final := Point.finals_of_issues fine strategy given marked
  obtain ⟨raw, -, h⟩ := Point.takes_of_status h judged
  obtain ⟨named, resolved, h⟩ := bind_eq_ok.1 h
  obtain ⟨processed, -, h⟩ := bind_eq_ok.1 h
  rw [Point.judge, strategy] at h
  obtain ⟨setting', f', more, items, values, v, status, given', finals, read, -, computed, found,
    accepts, e⟩ := Point.judgeJoint_eq_ok h
  rw [given] at given'
  cases given'
  rw [final] at finals
  cases finals
  obtain ⟨origins, each⟩ := Point.computeJoint_eq_ok.1 computed
  have computes : p.Computes s c setting r := by
    rw [e]
    exact ⟨origins, named, items, resolved, read, each⟩
  subst e
  exact ⟨computes, v, status, found, rfl, accepts, rfl, computes.first_iff final found⟩

namespace Strip

/-- A point of a strip: twice its average is judged. The formula before bears some name. -/
def camber (first : String) : Point where
  name := "camber"
  setup := ⟨none, .quantitative, .single, .manual, none, ⟨1, Nat.one_pos⟩⟩
  declarations := []
  sampleFormulas := []
  strategy := .joint
  setting := ⟨none, some ⟨[⟨first, "AVG(camber)", false⟩, ⟨"bend", "AVG(camber) * 2", true⟩]⟩, none⟩
  rule := some ⟨.max, 1.5, "mm", none, none⟩

/-- A strip whose camber is judged. -/
def bent (first : String) : Product where
  id := "strip"
  name := "Strip"
  category := none
  description := none
  points := [camber first]
  groups := []

/-- A strip whose camber has no issues and reads no other item is accepted. -/
lemma accepted_bent {first : String} (fine : (camber first).issues = [])
    (reads : (camber first).itemReferences = .ok []) : (bent first).check = .ok (bent first) := by
  have graph : (bent first).readingGraph = Table.ofList [("camber", [])] := by
    rw [Product.readingGraph, bent, List.filterMap_cons, reads]
    rfl
  have acyclic : (bent first).readingGraph.cycle? = none := by
    have keys : (Table.ofList [("camber", ([] : List String))]).keys = ["camber"] := by rfl
    have camber : (Table.ofList [("camber", ([] : List String))]).find? "camber" = some [] := by rfl
    simp [graph, Graph.cycle?, Graph.visitAll, Graph.visit_eq, keys, camber, Except.map]
  have none : (bent first).issues = [] := by
    rw [Product.issues, acyclic]
    simp [bent, Product.repeatedNames, Product.pointIssues, fine, reads]
  rw [Product.check, none]
  rfl

/-- A camber of one. -/
def submission : Submission :=
  ⟨"camber", .empty, [⟨⟨1, Nat.one_pos⟩, some 1.0, none, none⟩]⟩

/-- The result of a camber of one: the value of the first formula or that of the final one is
judged. -/
def result (first : String) (judged : Float) (status : Bool) : Result where
  item := "camber"
  strategy := .joint
  status := some status
  inputs := .empty
  resolved := []
  samples := [⟨⟨⟨1, Nat.one_pos⟩, some 1.0, none, none⟩, none, none, []⟩]
  finalValue := some judged
  jointValues := [⟨first, "AVG(camber)", 1.0, false⟩, ⟨"bend", "AVG(camber) * 2", 2.0, true⟩]

/-- Where the formula before has a name of its own, twice the average decides. -/
theorem final_formula_decides_mean :
    ∃ v, (result "mean" 2.0 false).finalValue = some v.value ∧
      (result "mean" 2.0 false).jointValues.filter JointValue.isFinal = [v] ∧
      (camber "mean").evaluate submission .empty true = .ok (result "mean" 2.0 false) := by
  have accepted : (bent "mean").check = .ok (bent "mean") :=
    accepted_bent (by decide +kernel) (by decide +kernel)
  have h : (camber "mean").evaluate submission .empty true = .ok (result "mean" 2.0 false) :=
    eq_ok_of_toOption (by decide +kernel)
  obtain ⟨-, v, status, -, final, -, -, first⟩ :=
    final_formula_decides accepted List.mem_cons_self rfl rfl
      (f := ⟨"bend", "AVG(camber) * 2", true⟩) (by decide) h rfl
  exact ⟨v, final, first.1 (by decide), h⟩

/-- Where the formula before bears the name of the final one, its value is judged instead: the
camber is good though the marked value is above the limit. -/
theorem final_formula_may_not_decide :
    ∃ product : Product, product.check = .ok product ∧ ∃ p ∈ product.points, ∃ setting f s r,
      p.strategy = .joint ∧ p.setting.joint = some setting ∧ setting.finals = [f] ∧
      p.evaluate s .empty true = .ok r ∧ r.status = some true ∧ r.finalValue = some 1.0 ∧
      r.jointValues.filter JointValue.isFinal = [⟨f.name, f.formula, 2.0, true⟩] ∧
      Rule.accepts p.rule (some 2.0) = .ok false := by
  refine ⟨bent "bend", accepted_bent (by decide +kernel) (by decide +kernel), camber "bend",
    List.mem_cons_self, _, ⟨"bend", "AVG(camber) * 2", true⟩, submission, result "bend" 1.0 true,
    rfl, rfl, by decide, eq_ok_of_toOption (by decide +kernel), rfl, rfl, by decide,
    by decide +kernel⟩

end Strip

end Inspection
