import Inspection.Proofs.Evaluation.Naming

/-!
# Averages of other items

The formula of a variable and a formula over all samples look for the samples of another item in two
ways. Both take the average of what they find, to the same number or the same failure (`averageOf`),
and report an item without samples as missing. But only a variable takes a fallback for the average
of such an item, and only a formula over all samples may find that another one before it bears the
item's name. Apart from these two cases an average is the same in both (`averages_alike`).
-/

namespace Inspection

open Formula

namespace Formula

/-- What a formula that averages some samples comes to: their mean, or why there is none. -/
def averageOf (text : String) (samples : List Float) : Except Failure Float :=
  match Number.mean samples with
  | .error fault => .error ⟨text, .badCall averageName (.sum fault)⟩
  | .ok y => if Number.isFinite y then .ok y else .error ⟨text, .notFinite⟩

/-- The text writes the average of the name and nothing else. -/
def Averages (text x : String) : Prop :=
  parse text = .ok (.call averageName [.name x])

/-- Whether the formula is the average of the name. -/
def Expr.isAverage (x : String) : Expr → Bool
  | .call f [.name n] => f = averageName && n = x
  | _ => false

lemma Expr.isAverage_iff {x : String} {e : Expr} :
    e.isAverage x ↔ e = .call averageName [.name x] := by
  constructor
  · intro h
    unfold isAverage at h
    split at h
    case h_1 f n =>
      obtain ⟨rfl, rfl⟩ : f = averageName ∧ n = x := by simpa using h
      rfl
    case h_2 => cases h
  · rintro rfl
    simp [isAverage]

instance (text x : String) : Decidable (Averages text x) :=
  decidable_of_iff ((parse text).toOption.any (Expr.isAverage x)) <| by
    rw [Averages]
    cases parse text with
    | error cause => simp [Except.toOption]
    | ok e => simp [Except.toOption, Expr.isAverage_iff]

namespace Averages

variable {text x : String} {bindings : Bindings}

/-- The average of a name mentions it as that of samples. -/
lemma references (averages : Averages text x) :
    Formula.references text = .ok ⟨[], [x], [averageName]⟩ := by
  rw [Formula.references, averages]
  rfl

/-- The average of a name is that of the value that the name has. -/
lemma evaluate_eq (averages : Averages text x) {v : Value}
    (value : lookup bindings x = .ok v) :
    evaluate standard bindings text =
      answered averageName (average [v]) >>= (Value.asNumber · .result) := by
  have eval : (Expr.call averageName [.name x]).eval standard bindings =
      answered averageName (average [v]) := by
    rw [Expr.eval.eq_def]
    dsimp only
    rw [if_neg (by decide), show standard averageName = some average from rfl]
    dsimp only
    rw [evalAll, Expr.eval, value]
    rfl
  rw [evaluate, averages]
  dsimp only
  rw [Expr.number, eval]

/-- The average of samples. -/
lemma of_samples (averages : Averages text x) {samples : List Float}
    (bound : bindings x = some (.ofSamples samples)) (some : samples ≠ []) :
    evaluateText bindings text = .ok (averageOf text samples) := by
  have value : lookup bindings x = .ok (.array samples) := by
    rw [lookup, bound]
    simp only [Binding.ofSamples, itemNumbers_ofSamples]
    rfl
  rw [evaluateText, averages.evaluate_eq value, averageOf]
  cases samples with
  | nil => exact absurd rfl some
  | cons first rest =>
    rw [average]
    · cases Number.mean (first :: rest) with
      | error fault => rfl
      | ok y =>
        dsimp only
        rw [answered, finite]
        by_cases fin : Number.isFinite y
        · rw [if_pos fin, if_pos fin]
          rfl
        · rw [if_neg fin, if_neg fin]
          rfl
    · exact List.cons_ne_nil first rest

/-- There is no average of a number. -/
lemma of_float (averages : Averages text x) {y : Float} (bound : bindings x = some (.float y)) :
    evaluateText bindings text = .ok (.error ⟨text, .badCall averageName .numberForMean⟩) := by
  have value : lookup bindings x = .ok (.number y) := by
    rw [lookup, bound]
  rw [evaluateText, averages.evaluate_eq value]
  rfl

end Averages

end Formula

/-! ## In the formula of a variable -/

/-- What is averaged of an item is there. -/
lemma Context.averaged?_ne_nil {c : Context} {x : String} {samples : List Float}
    (found : c.averaged? x = some samples) : samples ≠ [] := by
  rw [averaged?] at found
  split at found
  case isTrue =>
    obtain ⟨y, -, rfl⟩ := Option.map_eq_some_iff.1 found
    exact List.cons_ne_nil y []
  case isFalse some =>
    cases found
    simpa using some

/-- Where an item has samples, these are averaged, whatever the fallback. -/
lemma Context.averaged?_of_values {c : Context} {x : String} (some : c.values x ≠ []) :
    c.averaged? x = .some (c.values x) := by
  rw [averaged?, if_neg (by simpa using some)]

namespace Resolution

/-- Notes what the average of an item comes to as that of a variable: the value or why there is
none. Without anything to average, the item is missing. -/
def noteAverage (r : Resolution) (name item : String) :
    Option (Except Failure Float) → Resolution
  | some (.ok y) => r.succeed name y
  | some (.error failure) => r.fail name (.formula failure) []
  | none => r.fail name (.noData [item]) [item]

variable {inputs : Inputs} {c : Context} {r : Resolution} {v : Variable} {text x : String}

/-- The average of an item as a variable is that of its samples, or of the fallback. -/
lemma step_of_averages (averages : Averages text x) (kind : v.kind = .formula)
    (given : v.formula.filter (· ≠ "") = some text) :
    r.step inputs c v =
      .ok (r.noteAverage v.name x ((c.averaged? x).map (averageOf text))) := by
  rw [step, kind]
  dsimp only
  rw [given]
  dsimp only
  cases found : c.averaged? x with
  | none =>
    rw [resolveFormula, averages.references]
    simp [found, noteAverage]
  | some samples =>
    have bound : r.bindings c [x] x = some (.ofSamples samples) := by
      rw [bindings, if_pos List.mem_cons_self, found]
    rw [resolveFormula_of_free averages.references (by simp) (by simp [found]),
      averages.of_samples bound (Context.averaged?_ne_nil found), ok_bind, Option.map_some]
    cases averageOf text samples <;> rfl

end Resolution

/-! ## In a formula over all samples -/

namespace Point

variable {p : Point} {s : Submission} {c : Context} {complete : Bool} {setting : JointSetting}
  {named : Table Float} {processed : List SampleResult} {items : List String} {text x : String}

/-- What the average of an item comes to as a formula over all samples that is evaluated with some
bindings. Without samples, the evaluation of the point ends with the item as a missing one. -/
inductive JointAverage (p : Point) (s : Submission) (c : Context) (complete : Bool)
    (bindings : Bindings) (text item : String) : Option (Except Failure Float) → Prop
  | evaluated {outcome} :
    c.values item ≠ [] →
    evaluateText bindings text = .ok outcome →
    JointAverage p s c complete bindings text item (some outcome)
  | missing {lacking} :
    p.evaluate s c complete = raise (.missingDependency p.name lacking) →
    item ∈ lacking →
    JointAverage p s c complete bindings text item none

namespace Gathers

/-- An evaluation that lacks samples of other items ends with all that it lacks. -/
lemma evaluate_missing (gathers : p.Gathers s c complete setting named processed items)
    (final : setting.finals ≠ []) {n : String} (mem : n ∈ items) (none : c.values n = []) :
    p.evaluate s c complete =
      raise (.missingDependency p.name (items.filter fun n => (c.values n).isEmpty)) := by
  obtain ⟨raw, takes, computed⟩ := gathers.samples
  have missing : (items.filter fun n => (c.values n).isEmpty) ≠ [] :=
    List.ne_nil_of_mem (List.mem_filter.2 ⟨mem, by simp [none]⟩)
  rw [takes.evaluate, evaluateSamples, gathers.resolved, ok_bind]
  rw [processSamples] at computed
  rw [computed, ok_bind, judge, gathers.strategy]
  dsimp only
  rw [judgeJoint, gathers.given]
  dsimp only
  cases finals : setting.finals with
  | nil => exact absurd finals final
  | cons f rest =>
    dsimp only
    rw [Outcome.of_eq_ok.2 gathers.items, ok_bind]
    exact if_pos (by simpa using missing)

/-- Another item that a formula over all samples averages is one of those that are looked up. -/
lemma mem_items (gathers : p.Gathers s c complete setting named processed items)
    (averages : Averages text x) (foreign : x ∉ p.arrayNames) {f : JointFormula}
    (mem : f ∈ setting.formulas) (own : f.formula = text) : x ∈ items := by
  rw [mem_jointReferences gathers.items, mem_keys_sampleArrays]
  exact ⟨f, mem, _, own ▸ averages.references, List.mem_cons_self, foreign⟩

/-- Where no formula before bears its name, an item that is looked up stands for its samples. -/
lemma bindings_eq_samples (gathers : p.Gathers s c complete setting named processed items)
    (mem : x ∈ items) : jointBindings (p.sampleArrays processed) items c named x =
      some (.ofSamples (c.values x)) := by
  obtain ⟨f, -, r, -, -, foreign⟩ := (mem_jointReferences gathers.items).1 mem
  rw [jointBindings, Table.find?_eq_none.2 foreign, if_pos mem]

end Gathers

/-- After formulas of which one bears it, a name stands for a number. -/
lemma exists_bindValues_eq_float {bindings : Bindings} {values : List JointValue} {n : String}
    (mem : n ∈ values.map JointValue.name) :
    ∃ y, bindings.bindValues values n = some (.float y) := by
  induction values generalizing bindings with
  | nil => cases mem
  | cons v rest ih =>
    rw [Bindings.bindValues, List.foldl_cons]
    by_cases later : n ∈ rest.map JointValue.name
    · exact ih later
    · rw [List.map_cons, List.mem_cons] at mem
      refine ⟨v.value, (Bindings.bindValues_of_notMem later).trans ?_⟩
      rw [Bindings.bind, if_pos (mem.resolve_right later)]

end Point

/-- **Averages are alike, a fallback and a namesake apart.** Let a formula over all samples be the
average of another item, and let a variable have the same formula. Unless the item lacks samples and
has a fallback, or a formula over all samples before it bears its name, both come to the same number
or fail alike, or both report the item, just if it lacks samples. A variable takes a fallback where
the formula over all samples reports the item; and it takes the average where another formula of the
item's name leaves the formula over all samples a number to average. -/
theorem averages_alike {p : Point} {s : Submission} {c : Context} {complete : Bool}
    {setting : JointSetting} {named : Table Float} {before : List JointFormula} {f : JointFormula}
    {bindings : Bindings} (reaches : p.Reaches s c complete setting named before f bindings)
    (final : setting.finals ≠ []) {x : String} (averages : Averages f.formula x)
    (foreign : x ∉ p.arrayNames) {v : Variable} (kind : v.kind = .formula)
    (given : v.formula.filter (· ≠ "") = some f.formula) (inputs : Inputs) (r : Resolution) :
    ((c.values x = [] → c.fallback = none) → x ∉ before.map JointFormula.name →
      ∃ o, r.step inputs c v = .ok (r.noteAverage v.name x o) ∧
        p.JointAverage s c complete bindings f.formula x o ∧ (o = none ↔ c.values x = [])) ∧
    (∀ y, c.values x = [] → c.fallback = some y →
      r.step inputs c v = .ok (r.noteAverage v.name x (some (averageOf f.formula [y]))) ∧
        p.JointAverage s c complete bindings f.formula x none) ∧
    (c.values x ≠ [] → x ∈ before.map JointFormula.name →
      r.step inputs c v =
          .ok (r.noteAverage v.name x (some (averageOf f.formula (c.values x)))) ∧
        p.JointAverage s c complete bindings f.formula x
          (some (.error ⟨f.formula, .badCall averageName .numberForMean⟩))) := by
  obtain ⟨gathers, split, computed⟩ := reaches
  have mem := gathers.mem_items averages foreign (f := f) (by simp [split]) rfl
  have ofVariable : r.step inputs c v =
      .ok (r.noteAverage v.name x ((c.averaged? x).map (averageOf f.formula))) :=
    Resolution.step_of_averages averages kind given
  have names := Point.names_of_computeJoint computed
  have missing (none : c.values x = []) (bindings : Bindings) :
      p.JointAverage s c complete bindings f.formula x .none :=
    .missing (gathers.evaluate_missing final mem none) (List.mem_filter.2 ⟨mem, by simp [none]⟩)
  refine ⟨fun plain other => ?_, fun y none fallback => ?_, fun some namesake => ?_⟩
  · by_cases none : c.values x = []
    · have lacks : c.averaged? x = .none := Context.averaged?_eq_none.2 ⟨none, plain none⟩
      rw [lacks] at ofVariable
      exact ⟨.none, ofVariable, missing none _, by simp [none]⟩
    · rw [Context.averaged?_of_values none] at ofVariable
      refine ⟨_, ofVariable, .evaluated none (averages.of_samples ?_ none), by simp [none]⟩
      rw [Bindings.bindValues_of_notMem (names ▸ other), gathers.bindings_eq_samples mem]
  · have found : c.averaged? x = .some [y] := by
      rw [Context.averaged?, none, fallback]
      rfl
    rw [found] at ofVariable
    exact ⟨ofVariable, missing none _⟩
  · rw [Context.averaged?_of_values some] at ofVariable
    obtain ⟨y, bound⟩ := Point.exists_bindValues_eq_float (names ▸ namesake)
    exact ⟨ofVariable, .evaluated some (averages.of_float bound)⟩

namespace Strip

/-- A point of a strip with the average width twice: as a variable, and as what is judged. -/
def level : Point :=
  { plain "level" .manual none with
    declarations := [⟨"mean", .formula, none, some "AVG(width)"⟩]
    strategy := .joint
    setting := ⟨none, some ⟨[⟨"height", "AVG(width)", true⟩]⟩, none⟩ }

/-- What the evaluation of a level starts its formula from, where its mean is known. -/
lemma gathers_level {c : Context}
    (resolved : level.resolveVariables (reading "level" 1.0) c = .ok (.ofList [("mean", 2.0)])) :
    level.Gathers (reading "level" 1.0) c true ⟨[⟨"height", "AVG(width)", true⟩]⟩
      (.ofList [("mean", 2.0)]) unprocessed ["width"] :=
  ⟨⟨_, .submitted (by decide +kernel) (by simp [reading]), eq_ok_of_toOption (by decide +kernel)⟩,
    resolved, rfl, rfl, eq_ok_of_toOption (by decide +kernel)⟩

/-- With a width, the mean and the height of a level are the same. -/
theorem averages_alike_width :
    ∃ o, Resolution.start.step (.ofTable .empty) (given ["width"])
        ⟨"mean", .formula, none, some "AVG(width)"⟩ =
          .ok (Resolution.start.noteAverage "mean" "width" o) ∧
      level.JointAverage (reading "level" 1.0) (given ["width"]) true
        ((Point.jointBindings (level.sampleArrays unprocessed) ["width"] (given ["width"])
          (.ofList [("mean", 2.0)])).bindValues []) "AVG(width)" "width" o ∧ o ≠ none := by
  have gathers := gathers_level (c := given ["width"]) (eq_ok_of_toOption (by decide +kernel))
  have reaches : level.Reaches (reading "level" 1.0) (given ["width"]) true
      ⟨[⟨"height", "AVG(width)", true⟩]⟩ (.ofList [("mean", 2.0)]) [] ⟨"height", "AVG(width)", true⟩
      ((Point.jointBindings (level.sampleArrays unprocessed) ["width"] (given ["width"])
        (.ofList [("mean", 2.0)])).bindValues []) := .intro gathers rfl rfl
  have data : (given ["width"]).values "width" ≠ [] := by decide +kernel
  have average : Averages "AVG(width)" "width" := by decide +kernel
  obtain ⟨alike, -, -⟩ := averages_alike reaches (by decide) average (by decide)
    (v := ⟨"mean", .formula, none, some "AVG(width)"⟩) rfl rfl (.ofTable .empty) .start
  obtain ⟨o, ofVariable, ofJoint, missing⟩ := alike (fun none => absurd none data) (by decide)
  exact ⟨o, ofVariable, ofJoint, fun none => data (missing.1 none)⟩

/-- A strip with its width and its level. -/
def levelled : Product :=
  { product with points := [plain "width" .manual none, level] }

/-- A strip with a level is accepted. -/
lemma accepted_levelled : levelled.check = .ok levelled := by
  have keys : levelled.readingGraph.keys = ["width", "level"] := by decide +kernel
  have width : levelled.readingGraph.find? "width" = some [] := by decide +kernel
  have level : levelled.readingGraph.find? "level" = some ["width"] := by decide +kernel
  have cycle : levelled.readingGraph.cycle? = none := by
    simp [Graph.cycle?, Graph.visitAll, Graph.visit_eq, keys, width, level, Except.map]
  have fine : levelled.issues = [] := by
    simp only [Product.issues, cycle]
    decide +kernel
  rw [Product.check, fine]
  rfl

/-- Without a width, a fallback stands in for its average as a variable, but the same average over
all samples reports the width as missing. -/
theorem averages_may_differ : levelled.check = .ok levelled ∧
    ∃ p ∈ levelled.points, ∃ v ∈ p.declarations, ∃ f, p.strategy = .joint ∧
      p.setting.joint = some ⟨[f]⟩ ∧ v.kind = .formula ∧ v.formula = some f.formula ∧
      Averages f.formula "width" ∧ "width" ∉ p.arrayNames ∧
      ∃ (s : Submission) (c : Context) (named : Table Float), c.fallback = some 2.0 ∧
        p.resolveVariables s c = .ok named ∧ named.find? v.name = some 2.0 ∧
        p.evaluate s c true = raise (.missingDependency p.name ["width"]) := by
  have resolved : level.resolveVariables (reading "level" 1.0)
      { Context.empty with fallback := some 2.0 } = .ok (.ofList [("mean", 2.0)]) :=
    eq_ok_of_toOption (by decide +kernel)
  have missing := (gathers_level resolved).evaluate_missing (by decide) List.mem_cons_self
    (n := "width") rfl
  exact ⟨accepted_levelled, level, by simp [levelled], _, List.mem_cons_self, _, rfl, rfl, rfl, rfl,
    by decide +kernel, by decide, _, _, _, rfl, resolved, by decide +kernel, missing⟩

end Strip

end Inspection
