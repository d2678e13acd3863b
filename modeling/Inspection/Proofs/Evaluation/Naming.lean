import Inspection.Proofs.Evaluation.Supplying

/-!
# What the names of variables stand for

Variables, items, raw numbers and formulas share one space of names. The formula of a variable is
worked out from the variables before it (`Resolution.WorksOut`), and formulas over all samples from
what the samples come to (`Point.Gathers`) and from the formulas before them. The checks of a
product make sure that the variables of a point bear distinct names, which no formula over one
sample bears. But an item may be called like a variable, and so may the point itself and its raw
numbers. Where a formula averages such an item, or sees such samples, the name stands for samples in
it, and it stands for the value of the variable just if there are none (`names_of_variables`).
-/

namespace Inspection

open Formula

namespace Point

variable {p : Point} {declared : List String}

/-- No variable of a list without issues bears a name that was declared before. -/
lemma new_of_variablesIssues {vs : List Variable} (fine : p.variablesIssues declared vs = [])
    {v : Variable} (mem : v ∈ vs) : v.name ∉ declared := by
  induction vs generalizing declared with
  | nil => cases mem
  | cons first rest ih =>
    obtain ⟨new, -, later⟩ := fresh_of_variablesIssues fine
    rcases List.mem_cons.1 mem with rfl | mem
    · exact new
    · exact fun old => ih later mem (List.mem_append_left _ old)

/-- The variables after some have no issues where these are declared. -/
lemma variablesIssues_after {before rest : List Variable}
    (fine : p.variablesIssues declared (before ++ rest) = []) :
    p.variablesIssues (declared ++ before.map Variable.name) rest = [] := by
  induction before generalizing declared with
  | nil => simpa using fine
  | cons first before ih =>
    obtain ⟨-, -, later⟩ := fresh_of_variablesIssues fine
    rw [List.map_cons, List.append_cons]
    exact ih later

/-- No formula of a list without issues bears a name that is there before it. -/
lemma new_of_sampleFormulasIssues {available : List String} {fs : List SampleFormula}
    (fine : sampleFormulasIssues available fs = []) {f : SampleFormula} (mem : f ∈ fs) :
    f.name ∉ available := by
  induction fs generalizing available with
  | nil => cases mem
  | cons first rest ih =>
    rw [sampleFormulasIssues, List.append_eq_nil_iff, List.map_eq_nil_iff, sampleFormulaIssues,
      List.append_eq_nil_iff] at fine
    obtain ⟨⟨-, own⟩, later⟩ := fine
    rcases List.mem_cons.1 mem with rfl | mem
    · intro old
      rw [if_pos old] at own
      cases own
    · exact fun old => ih later mem (mem_addNew.2 (.inl old))

/-- Of the arrays of a point without issues, only the point itself and its raw numbers may be called
like a variable. -/
lemma mem_arrayNames_of_variable (fine : p.issues = []) {n : String} (mem : n ∈ p.variableNames) :
    n ∈ p.arrayNames ↔ n = p.name ∨ n ∈ p.setup.shape.rawNames := by
  simp only [issues, List.append_eq_nil_iff] at fine
  have new : n ∉ p.sampleFormulas.map SampleFormula.name := by
    intro own
    obtain ⟨f, hf, rfl⟩ := List.mem_map.1 own
    exact new_of_sampleFormulasIssues fine.1.2 hf (List.mem_append_right _ mem)
  rw [arrayNames, List.mem_append, List.mem_cons]
  simp [new]

end Point

namespace Resolution

variable {inputs : Inputs} {c : Context} {r r' : Resolution}

/-- Trying variables changes no value under another name. -/
lemma find?_of_run {vs : List Variable} (h : vs.foldlM (step inputs c) r = .ok r') {n : String}
    (other : n ∉ vs.map Variable.name) : r'.resolved.find? n = r.resolved.find? n := by
  induction vs generalizing r with
  | nil =>
    cases h
    rfl
  | cons v rest ih =>
    rw [List.foldlM_cons] at h
    obtain ⟨r₁, first, h⟩ := bind_eq_ok.1 h
    rw [List.map_cons, List.mem_cons, not_or] at other
    rw [ih h other.2]
    rcases gains_or_fails first with ⟨x, -, rfl⟩ | ⟨cause, missing, rfl⟩
    · rw [succeed, Table.find?_insert, if_neg other.1]
    · rfl

/-- The formula of a variable is worked out once those before it are tried: none that it reads has
failed, and what it averages can be averaged. -/
structure WorksOut (inputs : Inputs) (c : Context) (before : List Variable) (v : Variable)
    (text : String) (refs : References) (r : Resolution) : Prop where
  tried : tried inputs c before = .ok r
  kind : v.kind = .formula
  given : v.formula.filter (· ≠ "") = some text
  read : references text = .ok refs
  free : ∀ n ∈ refs.names, r.failures.contains n = false
  data : ∀ n ∈ refs.averaged, (c.averaged? n).isSome

namespace WorksOut

variable {before : List Variable} {v : Variable} {text : String} {refs : References}

/-- A variable whose formula is worked out comes to what the formula computes. -/
lemma step (works : WorksOut inputs c before v text refs r) :
    r.step inputs c v = (do
      match ← evaluateText (r.bindings c refs.averaged) text with
      | .ok x => return r.succeed v.name x
      | .error failure => return r.fail v.name (.formula failure) []) := by
  rw [Resolution.step, works.kind]
  dsimp only
  rw [works.given]
  exact resolveFormula_of_free works.read works.free works.data

/-- What a formula of a point without issues reads are variables before it, which have values. -/
lemma isSome_of_reads {p : Point} {after : List Variable} {t : Table Float}
    (works : WorksOut (.ofTable t) c before v text refs r)
    (fine : p.variablesIssues [] (before ++ v :: after) = []) {n : String}
    (reads : n ∈ refs.names) :
    n ∈ before.map Variable.name ∧ (r.resolved.find? n).isSome := by
  have own := Point.variablesIssues_after fine
  obtain ⟨-, known, -⟩ := Point.fresh_of_variablesIssues own
  have mem : n ∈ before.map Variable.name := by
    simpa using known n ⟨refs, ⟨works.kind, text, works.given, works.read⟩, reads⟩
  have start : Covers .start [] := by simp [Covers]
  have covers := start.run works.tried
  refine ⟨mem, (covers n (by simpa using mem)).resolve_right ?_⟩
  rw [works.free n reads]
  exact Bool.false_ne_true

/-- What a variable came to before a formula is its value in the end. -/
lemma find?_resolved {p : Point} {after : List Variable} {s : Submission} {named : Table Float}
    (works : WorksOut (.ofTable s.inputs) c before v text refs r)
    (split : p.declarations = before ++ v :: after)
    (fine : p.variablesIssues [] p.declarations = [])
    (resolved : p.resolveVariables s c = .ok named) {n : String}
    (mem : n ∈ before.map Variable.name) : named.find? n = r.resolved.find? n := by
  have later : n ∉ (v :: after).map Variable.name := by
    intro again
    rw [split] at fine
    obtain ⟨w, hw, rfl⟩ := List.mem_map.1 again
    exact Point.new_of_variablesIssues (Point.variablesIssues_after fine) hw (by simpa using mem)
  rw [Point.resolveVariables] at resolved
  split at resolved
  case h_1 =>
    dsimp only at resolved
    split at resolved <;> cases resolved
  case h_2 =>
    obtain ⟨last, run, resolved⟩ := bind_eq_ok.1 resolved
    split at resolved
    case isFalse => cases resolved
    case isTrue =>
      cases resolved
      rw [split, List.foldlM_append] at run
      obtain ⟨r₁, first, run⟩ := bind_eq_ok.1 run
      obtain rfl : r₁ = r := Except.ok.inj (first.symm.trans works.tried)
      exact find?_of_run run later

/-- A name that has a value stands for it in the formula just if it is not averaged there. -/
lemma bindings_eq_float (works : WorksOut inputs c before v text refs r) {n : String} {x : Float}
    (value : r.resolved.find? n = some x) :
    r.bindings c refs.averaged n = some (.float x) ↔ n ∉ refs.averaged := by
  rw [bindings]
  by_cases averaged : n ∈ refs.averaged
  · obtain ⟨samples, found⟩ := Option.isSome_iff_exists.1 (works.data n averaged)
    rw [if_pos averaged, found]
    simp [averaged, Binding.ofSamples]
  · rw [if_neg averaged, value]
    simp [averaged]

end WorksOut

end Resolution

/-- One of the formulas over all samples averages the name. -/
def JointSetting.Averages (setting : JointSetting) (n : String) : Prop :=
  ∃ f ∈ setting.formulas, ∃ r, references f.formula = .ok r ∧ n ∈ r.averaged

/-- Values of formulas leave names alone that no formula bears. -/
lemma Formula.Bindings.bindValues_of_notMem {bindings : Bindings} {values : List JointValue}
    {n : String} (other : n ∉ values.map JointValue.name) :
    bindings.bindValues values n = bindings n := by
  induction values generalizing bindings with
  | nil => rfl
  | cons v rest ih =>
    rw [List.map_cons, List.mem_cons, not_or] at other
    rw [bindValues, List.foldl_cons]
    exact (ih other.2).trans (if_neg other.1)

namespace Point

variable {p : Point} {s : Submission} {c : Context} {complete : Bool} {setting : JointSetting}
  {named : Table Float} {processed : List SampleResult} {items : List String}

/-- An evaluation has what the formulas over all samples start from: the variables are resolved, the
samples processed, and the other items that these formulas average are known. -/
structure Gathers (p : Point) (s : Submission) (c : Context) (complete : Bool)
    (setting : JointSetting) (named : Table Float) (processed : List SampleResult)
    (items : List String) : Prop where
  samples : ∃ raw, p.Takes s c complete raw ∧ p.processSamples named raw = .ok processed
  resolved : p.resolveVariables s c = .ok named
  strategy : p.strategy = .joint
  given : p.setting.joint = some setting
  items : jointReferences (p.sampleArrays processed).keys setting.formulas = .ok items

namespace Gathers

/-- A name that has a value stands for it in the first formula over all samples just if it is that
of no array of the point and of no item that these formulas average. -/
lemma bindings_eq_float (gathers : p.Gathers s c complete setting named processed items)
    {n : String} {x : Float} (value : named.find? n = some x) :
    jointBindings (p.sampleArrays processed) items c named n = some (.float x) ↔
      n ∉ p.arrayNames ∧ ¬ setting.Averages n := by
  have foreign : n ∈ items ↔ setting.Averages n ∧ n ∉ p.arrayNames := by
    rw [mem_jointReferences gathers.items, mem_keys_sampleArrays, JointSetting.Averages]
    constructor
    · rintro ⟨f, mem, r, read, averaged, other⟩
      exact ⟨⟨f, mem, r, read, averaged⟩, other⟩
    · rintro ⟨⟨f, mem, r, read, averaged⟩, other⟩
      exact ⟨f, mem, r, read, averaged, other⟩
  rw [jointBindings]
  cases found : (p.sampleArrays processed).find? n with
  | some xs =>
    have own : n ∈ p.arrayNames := mem_keys_sampleArrays.1 (Table.mem_keys_of_find? found)
    simp [own, Binding.ofSamples]
  | none =>
    have other : n ∉ p.arrayNames := by
      rw [← mem_keys_sampleArrays]
      exact Table.find?_eq_none.1 found
    by_cases item : n ∈ items
    · rw [if_pos item]
      simp [(foreign.1 item).1, Binding.ofSamples]
    · rw [if_neg item, value]
      simp only [Option.map_some, true_iff]
      exact ⟨other, fun averages => item (foreign.2 ⟨averages, other⟩)⟩

end Gathers

/-- An evaluation comes to a formula over all samples: those before it are computed one after the
other, and names stand for their values, or else for what they stood for before the first. -/
inductive Reaches (p : Point) (s : Submission) (c : Context) (complete : Bool) :
    JointSetting → Table Float → List JointFormula → JointFormula → Bindings → Prop
  | intro {setting named processed items before f after values} :
    p.Gathers s c complete setting named processed items →
    setting.formulas = before ++ f :: after →
    p.computeJoint (jointBindings (p.sampleArrays processed) items c named) before = .ok values →
    Reaches p s c complete setting named before f
      ((jointBindings (p.sampleArrays processed) items c named).bindValues values)

/-- Values that are computed bear the names of their formulas. -/
lemma names_of_computeJoint {bindings : Bindings} {fs : List JointFormula}
    {values : List JointValue} (computed : p.computeJoint bindings fs = .ok values) :
    values.map JointValue.name = fs.map JointFormula.name := by
  rw [← (computeJoint_eq_ok.1 computed).1, List.map_map]
  rfl

end Point

/-- **The name of a variable means the variable unless samples bear it too.** In a point of an
accepted product, what the formula of a variable reads are variables before it, each with a value
that it keeps; the name stands for the value just if the formula does not average an item called so.
In a formula over all samples, the name of a variable that no such formula before it bears stands
for the variable's value just if it is neither the name of the point nor of its raw numbers, and no
such formula averages an item called so. -/
theorem names_of_variables {product : Product} (accepted : product.check = .ok product) {p : Point}
    (mem : p ∈ product.points) (s : Submission) (c : Context) :
    (∀ before v after text refs r, p.declarations = before ++ v :: after →
      Resolution.WorksOut (.ofTable s.inputs) c before v text refs r →
      ∀ n ∈ refs.names, n ∈ before.map Variable.name ∧ ∃ x, r.resolved.find? n = some x ∧
        (∀ named, p.resolveVariables s c = .ok named → named.find? n = some x) ∧
        (r.bindings c refs.averaged n = some (.float x) ↔ n ∉ refs.averaged)) ∧
    ∀ complete setting named before f bindings,
      p.Reaches s c complete setting named before f bindings →
      ∀ n ∈ p.variableNames, n ∉ before.map JointFormula.name → ∃ x, named.find? n = some x ∧
        (bindings n = some (.float x) ↔
          n ≠ p.name ∧ n ∉ p.setup.shape.rawNames ∧ ¬ setting.Averages n) := by
  have fine : p.issues = [] := Product.issues_of_mem (Product.issues_of_check accepted).2 mem
  have declared : p.variablesIssues [] p.declarations = [] := by
    simp only [Point.issues, List.append_eq_nil_iff] at fine
    exact fine.1.1.2
  constructor
  · intro before v after text refs r split works n reads
    obtain ⟨known, value⟩ := works.isSome_of_reads (split ▸ declared) reads
    obtain ⟨x, value⟩ := Option.isSome_iff_exists.1 value
    refine ⟨known, x, value, fun named resolved => ?_, works.bindings_eq_float value⟩
    rw [works.find?_resolved split declared resolved known, value]
  · rintro complete setting named before f _ ⟨gathers, -, computed⟩ n name other
    obtain ⟨x, value⟩ :=
      Option.isSome_iff_exists.1 (Point.isSome_of_resolveVariables gathers.resolved name)
    rw [← Point.names_of_computeJoint computed] at other
    refine ⟨x, value, ?_⟩
    rw [Bindings.bindValues_of_notMem other, gathers.bindings_eq_float value,
      Point.mem_arrayNames_of_variable fine name, not_or, and_assoc]

namespace Gauge

/-- The values of the variables of a gauge. -/
def named : Table Float := .ofList [("slack", 0.25), ("offset", 0.5)]

/-- The reading of a gauge with its total. -/
def processed : List SampleResult :=
  [⟨⟨⟨1, Nat.one_pos⟩, some 1.5, none, none⟩, none, none,
    [⟨"total", "single_value + offset", some 2.0, true⟩]⟩]

/-- The slack means itself in the offset, and the offset in the gain. -/
theorem names_of_variables_gauge : product.check = .ok product ∧ point ∈ product.points ∧
    (Resolution.succeed .start "slack" 0.25).bindings .empty [] "slack" = some (.float 0.25) ∧
    (Point.jointBindings (point.sampleArrays processed) [] .empty named).bindValues
      [⟨"mean", "AVG(total)", 2.0, false⟩] "offset" = some (.float 0.5) := by
  have mem : point ∈ product.points := List.mem_cons_self
  have read : references "2 * slack" = .ok ⟨["slack"], [], []⟩ := by decide +kernel
  have works : Resolution.WorksOut (.ofTable submission.inputs) .empty
      [⟨"slack", .manual, none, none⟩] ⟨"offset", .formula, none, some "2 * slack"⟩ "2 * slack"
      ⟨["slack"], [], []⟩ (.succeed .start "slack" 0.25) :=
    ⟨rfl, rfl, rfl, read, by simp [Resolution.succeed, Resolution.start, Table.contains], by simp⟩
  have gathers : point.Gathers submission .empty true
      ⟨[⟨"mean", "AVG(total)", false⟩, ⟨"gain", "mean / offset", true⟩]⟩ named processed [] :=
    ⟨⟨_, .submitted (by decide +kernel) (by simp [submission]),
      eq_ok_of_toOption (by decide +kernel)⟩, eq_ok_of_toOption (by decide +kernel), rfl, rfl,
      eq_ok_of_toOption (by decide +kernel)⟩
  obtain ⟨ofVariable, ofJoint⟩ := names_of_variables accepted mem submission .empty
  obtain ⟨-, x, slack, -, meant⟩ := ofVariable _ _ _ _ _ _ rfl works "slack" List.mem_cons_self
  have reaches : point.Reaches submission .empty true
      ⟨[⟨"mean", "AVG(total)", false⟩, ⟨"gain", "mean / offset", true⟩]⟩ named
      [⟨"mean", "AVG(total)", false⟩] ⟨"gain", "mean / offset", true⟩
      ((Point.jointBindings (point.sampleArrays processed) [] .empty named).bindValues
        [⟨"mean", "AVG(total)", 2.0, false⟩]) :=
    .intro gathers rfl (eq_ok_of_toOption (by decide +kernel))
  obtain ⟨y, offset, meant'⟩ := ofJoint _ _ _ _ _ _ reaches "offset" (by decide) (by decide)
  refine ⟨accepted, mem, ?_, ?_⟩
  · obtain rfl : x = 0.25 := Option.some.inj (slack.symm.trans (by decide +kernel))
    exact meant.2 List.not_mem_nil
  · obtain rfl : y = 0.5 := Option.some.inj (offset.symm.trans (by decide +kernel))
    refine meant'.2 ⟨by decide, by decide, ?_⟩
    rintro ⟨f, mem, r, read, averaged⟩
    have mean : references "AVG(total)" = .ok ⟨[], ["total"], ["AVG"]⟩ := by decide +kernel
    have gain : references "mean / offset" = .ok ⟨["mean", "offset"], [], []⟩ := by decide +kernel
    rcases List.mem_cons.1 mem with rfl | mem
    · cases mean.symm.trans read
      exact absurd averaged (by decide)
    · obtain rfl := List.mem_singleton.1 mem
      cases gain.symm.trans read
      cases averaged

end Gauge

namespace Strip

/-- A point of a strip whose width stands for two things: a width that it is declared to have, and
the item. -/
def taper : Point :=
  { plain "taper" .manual none with
    declarations := [⟨"width", .fixed, some 2.0, none⟩,
      ⟨"margin", .formula, none, some "width + AVG(width)"⟩] }

/-- A point of a strip with a variable of its own name: twice the value of the variable is to be
judged. -/
def bow : Point :=
  { plain "bow" .manual none with
    declarations := [⟨"bow", .fixed, some 2.0, none⟩]
    strategy := .joint
    setting := ⟨none, some ⟨[⟨"limit", "bow * 2", true⟩]⟩, none⟩ }

/-- A reading of one as it is processed where nothing is computed of it. -/
def unprocessed : List SampleResult :=
  [⟨⟨⟨1, Nat.one_pos⟩, some 1.0, none, none⟩, none, none, []⟩]

/-- A strip with its width, its taper and its bow. -/
def arched : Product :=
  { product with points := [plain "width" .manual none, taper, bow] }

/-- A strip with a taper and a bow is accepted. -/
lemma accepted_arched : arched.check = .ok arched := by
  have keys : arched.readingGraph.keys = ["width", "taper", "bow"] := by decide +kernel
  have width : arched.readingGraph.find? "width" = some [] := by decide +kernel
  have taper : arched.readingGraph.find? "taper" = some ["width"] := by decide +kernel
  have bow : arched.readingGraph.find? "bow" = some [] := by decide +kernel
  have cycle : arched.readingGraph.cycle? = none := by
    simp [Graph.cycle?, Graph.visitAll, Graph.visit_eq, keys, width, taper, bow, Except.map]
  have fine : arched.issues = [] := by
    simp only [Product.issues, cycle]
    decide +kernel
  rw [Product.check, fine]
  rfl

/-- The name of a variable may stand for samples, in the formula of a variable as in one over all
samples: the width for those of the item, and the bow for its own, so that it cannot be doubled. -/
theorem names_may_mean_samples : arched.check = .ok arched ∧
    (∃ p ∈ arched.points, ∃ (s : Submission) (c : Context),
      ∃ before v after text refs r n x samples, p.declarations = before ++ v :: after ∧
      Resolution.WorksOut (.ofTable s.inputs) c before v text refs r ∧
      n ∈ refs.names ∧ n ∈ before.map Variable.name ∧ r.resolved.find? n = some x ∧
      r.bindings c refs.averaged n = some (.ofSamples samples)) ∧
    ∃ p ∈ arched.points, ∃ s setting named before f bindings refs n x samples,
      p.Reaches s .empty true setting named before f bindings ∧
      references f.formula = .ok refs ∧ n ∈ refs.names ∧ n ∈ p.variableNames ∧
      n ∉ before.map JointFormula.name ∧ named.find? n = some x ∧
      bindings n = some (.ofSamples samples) ∧
      (p.evaluate s .empty true).toOption = none := by
  have margin : references "width + AVG(width)" = .ok ⟨["width"], ["width"], ["AVG"]⟩ := by
    decide +kernel
  have limit : references "bow * 2" = .ok ⟨["bow"], [], []⟩ := by decide +kernel
  have width : (given ["width"]).averaged? "width" = some [2.0] := by decide +kernel
  have works : Resolution.WorksOut (.ofTable (reading "taper" 1.0).inputs) (given ["width"])
      [⟨"width", .fixed, some 2.0, none⟩] ⟨"margin", .formula, none, some "width + AVG(width)"⟩
      "width + AVG(width)" ⟨["width"], ["width"], ["AVG"]⟩ (.succeed .start "width" 2.0) :=
    ⟨rfl, rfl, rfl, margin, by simp [Resolution.succeed, Resolution.start, Table.contains],
      by simp [width]⟩
  have gathers : bow.Gathers (reading "bow" 1.0) .empty true ⟨[⟨"limit", "bow * 2", true⟩]⟩
      (.ofList [("bow", 2.0)]) unprocessed [] :=
    ⟨⟨_, .submitted (by decide +kernel) (by simp [reading]),
      eq_ok_of_toOption (by decide +kernel)⟩, eq_ok_of_toOption (by decide +kernel), rfl, rfl,
      eq_ok_of_toOption (by decide +kernel)⟩
  have own : (bow.sampleArrays unprocessed).find? "bow" = some [1.0] := by decide +kernel
  have first : bow.computeJoint (Point.jointBindings (bow.sampleArrays unprocessed) [] .empty
      (.ofList [("bow", 2.0)])) [] = .ok [] := rfl
  refine ⟨accepted_arched, ⟨taper, by simp [arched], _, _, _, _, [], _, _, _, "width", 2.0, [2.0],
    rfl, works, List.mem_cons_self, by decide, by decide +kernel, ?_⟩, bow, by simp [arched], _, _,
    _, _, _, _, _, "bow", 2.0, [1.0], .intro gathers rfl first, limit, List.mem_cons_self,
    by decide, List.not_mem_nil, by decide +kernel, ?_, by decide +kernel⟩
  · rw [Resolution.bindings, if_pos List.mem_cons_self, width]
  · rw [Bindings.bindValues, List.foldl_nil, Point.jointBindings, own]

end Strip

end Inspection
