import Inspection.Proofs.Evaluation.Joint
import Inspection.Proofs.Evaluation.Lacking

/-!
# Dependencies of points

The items that a point reads are told before any evaluation, and so are those of them that have no
data. What is told is complete: contexts that show the same of the items that are read lead to the
same outcome (`itemReferences_complete`). And it agrees with the evaluation: what an evaluation
reports as missing is told to be missing (`Point.Reports`), and an evaluation that comes to a status
found data for all that its formulas average (`Point.data_of_evaluateSamples`), so that no more than
the source of samples that were handed in may be missing (`dependencies_agree`).
-/

namespace Inspection

open Formula

/-- Contexts that show the same numbers and the same average of some items agree on them. -/
lemma Context.Agree.of_averages {items : List String} {c d : Context}
    (same : ∀ n ∈ items, c.values n = d.values n ∧ c.average n = d.average n) :
    Agree items c d := by
  refine ⟨fun n mem => (same n mem).1, fun n mem => ?_⟩
  obtain ⟨values, average⟩ := same n mem
  rw [Context.average, Context.average, values] at average
  rw [averaged?, averaged?, values]
  split
  case isTrue none =>
    rw [if_pos none, if_pos none] at average
    rw [Except.ok.inj average]
  case isFalse => rfl

/-- **References are complete.** The items that a point of an accepted product reads can be told,
and contexts in which each of them has the same numbers and the same average lead any submission to
the same outcome, the result or the fault. -/
theorem itemReferences_complete {product : Product} (accepted : product.check = .ok product)
    {p : Point} (mem : p ∈ product.points) :
    ∃ items, p.itemReferences = .ok items ∧ ∀ c d : Context,
      (∀ n ∈ items, c.values n = d.values n ∧ c.average n = d.average n) →
        ∀ s complete, p.evaluate s c complete = p.evaluate s d complete := by
  have sound := (Product.sound_of_check accepted).2.points p mem
  obtain ⟨items, reads⟩ := sound.itemReferences
  refine ⟨items, reads, fun c d same s complete => ?_⟩
  exact Point.evaluate_congr sound reads (Context.Agree.of_averages same) s complete

namespace Strip

/-- A point of a strip whose readings are judged as they are. -/
def plain (name : String) (source : Source) (derivedFrom : Option String) : Point where
  name := name
  setup := ⟨none, .quantitative, .single, source, derivedFrom, ⟨1, Nat.one_pos⟩⟩
  declarations := []
  sampleFormulas := []
  strategy := .perSample
  setting := ⟨some ⟨true, none⟩, none, none⟩
  rule := some ⟨.max, 5.0, "mm", none, none⟩

/-- A strip is as wide at its edge, unless this is measured on its own. -/
def edge : Point := plain "edge" .derived (some "width")

/-- A strip with its width, its drift and its edge. -/
def product : Product where
  id := "strip"
  name := "Strip"
  category := none
  description := none
  points := [plain "width" .manual none, drift, edge]
  groups := []

/-- The drift reads the width. -/
lemma itemReferences_drift : drift.itemReferences = .ok ["width"] :=
  eq_ok_of_toOption (by decide +kernel)

/-- A strip is accepted. -/
lemma accepted : product.check = .ok product := by
  have keys : product.readingGraph.keys = ["width", "drift", "edge"] := by decide +kernel
  have width : product.readingGraph.find? "width" = some [] := by decide +kernel
  have drift : product.readingGraph.find? "drift" = some ["width"] := by decide +kernel
  have edge : product.readingGraph.find? "edge" = some ["width"] := by decide +kernel
  have cycle : product.readingGraph.cycle? = none := by
    simp [Graph.cycle?, Graph.visitAll, Graph.visit_eq, keys, width, drift, edge, Except.map]
  have fine : product.issues = [] := by
    simp only [Product.issues, cycle]
    decide +kernel
  rw [Product.check, fine]
  rfl

/-- One reading of an item, with a slack. -/
def reading (item : String) (x : Float) : Submission :=
  ⟨item, .ofList [("slack", 0.25)], [⟨⟨1, Nat.one_pos⟩, some x, none, none⟩]⟩

/-- A context with what was handed in for some items. -/
def given (items : List String) : Context :=
  { Context.empty with submissions := .ofList (items.map fun n => (n, reading n 2.0)) }

/-- The result of a drift of two where the width is two. -/
def driftResult : Result where
  item := "drift"
  strategy := .perSample
  status := some true
  inputs := .ofList [("slack", 0.25)]
  resolved := [⟨"slack", .manual, 0.25, none⟩, ⟨"limit", .formula, 2.25, some "AVG(width) + slack"⟩]
  samples := [⟨⟨⟨1, Nat.one_pos⟩, some 2.0, none, none⟩, some true, some (-0.25),
    [⟨"excess", "single_value - limit", some (-0.25), true⟩]⟩]
  finalValue := none
  jointValues := []

/-- The drift is the same whether or not the edge was measured, which it does not read. -/
theorem evaluate_drift_of_width :
    (given ["width"]).values "edge" ≠ (given ["width", "edge"]).values "edge" ∧
      ∃ items, drift.itemReferences = .ok items ∧ "edge" ∉ items ∧
        drift.evaluate (reading "drift" 2.0) (given ["width"]) true = .ok driftResult ∧
        drift.evaluate (reading "drift" 2.0) (given ["width", "edge"]) true = .ok driftResult := by
  obtain ⟨items, reads, same⟩ := itemReferences_complete accepted (p := drift) (by simp [product])
  obtain rfl : items = ["width"] := Except.ok.inj (reads.symm.trans itemReferences_drift)
  have h : drift.evaluate (reading "drift" 2.0) (given ["width"]) true = .ok driftResult :=
    eq_ok_of_toOption (by decide +kernel)
  refine ⟨by decide +kernel, _, reads, by decide, h, ?_⟩
  rw [← h]
  refine (same (given ["width"]) (given ["width", "edge"]) (fun n mem => ?_) _ _).symm
  rw [List.mem_singleton.1 mem]
  exact ⟨rfl, rfl⟩

end Strip

/-- Names with one more are still distinct. -/
lemma nodup_addNew {names : List String} {name : String} (distinct : names.Nodup) :
    (addNew names name).Nodup := by
  rw [addNew]
  split
  case isTrue => exact distinct
  case isFalse new =>
    rw [List.nodup_append]
    refine ⟨distinct, List.nodup_singleton _, ?_⟩
    rintro n mem m last rfl
    exact new (List.mem_singleton.1 last ▸ mem)

namespace Point

variable {p : Point} {s : Submission} {c : Context} {complete : Bool} {named : Table Float}
  {raw : List Sample} {fault : Fault} {items : List String} {n : String}

/-- Foreign names that are added are still distinct. -/
lemma nodup_addForeign {arrays found names : List String} (distinct : found.Nodup) :
    (addForeign arrays found names).Nodup := by
  rw [addForeign]
  induction names generalizing found with
  | nil => exact distinct
  | cons name rest ih =>
    rw [List.foldl_cons]
    apply ih
    split
    case isTrue => exact distinct
    case isFalse => exact nodup_addNew distinct

/-- A point names each item that it reads once. -/
lemma nodup_itemReferences (reads : p.itemReferences = .ok items) : items.Nodup := by
  obtain ⟨rs, -, e⟩ := bind_eq_ok.1 reads
  have foreign : (addForeign p.arrayNames [] (rs.flatMap References.averaged)).Nodup :=
    nodup_addForeign List.nodup_nil
  split at e
  · cases pure_eq_ok.1 e
    exact nodup_addNew foreign
  · cases pure_eq_ok.1 e
    exact foreign

/-- The item is one that the point reads, and it has no data. -/
def Lacks (p : Point) (c : Context) (n : String) : Prop :=
  (p.AveragesItem n ∨ p.derivedSource? = some n) ∧ c.values n = []

/-- The missing dependencies of a point are the items that it lacks. -/
lemma missingDependencies_eq_ok (sound : p.Sound) (c : Context) :
    ∃ missing, p.missingDependencies [] c = .ok missing ∧ missing.Nodup ∧
      ∀ n, n ∈ missing ↔ p.Lacks c n := by
  obtain ⟨items, reads⟩ := sound.itemReferences
  refine ⟨items.filter fun n => n ∉ [] ∧ (c.values n).isEmpty, ?_, ?_, fun n => ?_⟩
  · rw [missingDependencies, reads]
    rfl
  · exact (nodup_itemReferences reads).filter _
  · rw [List.mem_filter, mem_itemReferences reads]
    simp [Lacks]

/-- An item is averaged by the formula of a variable, or by one over all samples where these are
used. -/
lemma averagesItem_cases (averages : p.AveragesItem n) :
    (∃ v ∈ p.declarations, v.Averages n) ∨
      p.strategy = .joint ∧ ∃ setting, p.setting.joint = some setting ∧ ∃ f ∈ setting.formulas,
        ∃ r, references f.formula = .ok r ∧ n ∈ r.averaged ∧ n ∉ p.arrayNames := by
  obtain ⟨text, mem, r, read, averaged, foreign⟩ := averages
  rcases mem_averagingFormulas.1 mem with
    ⟨v, hv, kind, given⟩ | ⟨strategy, setting, given, f, hf, rfl⟩
  · exact .inl ⟨v, hv, r, ⟨kind, text, given, read⟩, averaged⟩
  · exact .inr ⟨strategy, setting, given, f, hf, r, read, averaged, foreign⟩

/-! ### What is reported -/

/-- If the fault reports missing items of the point, there are some, and the point lacks each. -/
def Reports (p : Point) (c : Context) (fault : Fault) : Prop :=
  ∀ item missing, fault = .error (.missingDependency item missing) →
    item = p.name ∧ missing ≠ [] ∧ ∀ n ∈ missing, p.Lacks c n

/-- A formula's failure reports nothing as missing. -/
lemma reports_ofFailure {failure : Failure} {item name : Option String} :
    p.Reports c (.ofFailure failure item name) := by
  intro other missing e
  rw [Fault.ofFailure] at e
  split at e
  case h_1 o _ => cases o <;> cases e
  case h_2 => cases e

/-- A formula that halts reports nothing as missing. -/
lemma reports_of_evaluateText {bindings : Bindings} {text : String}
    (h : evaluateText bindings text = .error fault) : p.Reports c fault := by
  rintro item missing rfl
  exact absurd h (evaluateText_ne_raise _)

/-- A rule without an answer reports nothing as missing. -/
lemma reports_of_accepts {x : Option Float}
    (h : Outcome.of Fault.ofRule (Rule.accepts p.rule x) = .error fault) : p.Reports c fault := by
  obtain ⟨flaw, -, rfl⟩ := Outcome.of_eq_error.1 h
  intro item missing e
  cases flaw <;> cases e

/-- Variables report as missing what their formulas average. -/
lemma reports_of_resolveVariables (fine : p.issues = [])
    (h : p.resolveVariables s c = .error fault) : p.Reports c fault := by
  intro item missing e
  subst e
  have numeric := Inputs.numeric_ofTable s.inputs
  rw [resolveVariables] at h
  split at h
  case h_2 other =>
    exact absurd h (other _)
  case h_1 e resolved =>
    obtain ⟨r, acc, -, rfl⟩ := Resolution.accounts_of_resolve_error fine numeric resolved
    dsimp only at h
    split at h
    case isTrue => cases h
    case isFalse some =>
      cases h
      refine ⟨rfl, by simpa using some, fun n mem => ?_⟩
      obtain ⟨v, hv, averages, none, -⟩ := (acc.missing n).1 (mem_missingItems.1 mem)
      obtain ⟨refs, ⟨kind, text, given, read⟩, averaged⟩ := averages
      have other : p.AveragesItem n :=
        (sound_of_issues fine).averagesItem hv kind given read averaged
      exact ⟨.inl other, (Context.averaged?_eq_none.1 none).1⟩

/-- The formulas over a sample report nothing as missing. -/
lemma reports_of_processSamples (h : p.processSamples named raw = .error fault) :
    p.Reports c fault := by
  obtain ⟨sample, -, h⟩ := exists_of_mapM_eq_error h
  obtain h | ⟨values, -, h⟩ := bind_eq_error.1 h
  · obtain ⟨text, bindings, -, halted | ⟨failure, name, -, rfl⟩⟩ := computeValues_eq_error h
    · exact reports_of_evaluateText halted
    · exact reports_ofFailure
  · cases h

/-- Judging sample by sample reports nothing as missing. -/
lemma reports_of_judgeSamples {r : Result} (h : p.judgeSamples r = .error fault) :
    p.Reports c fault := by
  rw [judgeSamples] at h
  split at h
  case h_1 =>
    cases h
    intro item missing e
    cases e
  case h_2 =>
    obtain h | ⟨samples, -, h⟩ := bind_eq_error.1 h
    · obtain ⟨sample, -, h⟩ := exists_of_mapM_eq_error h
      obtain h | ⟨status, -, h⟩ := bind_eq_error.1 h
      · exact reports_of_accepts h
      · cases h
    · cases h

/-- Judging from all samples reports as missing what the formulas over them average. -/
lemma reports_of_judgeJoint (strategy : p.strategy = .joint) {r : Result}
    (h : p.judgeJoint c named r = .error fault) : p.Reports c fault := by
  have unmarked {cause : FinalValueCause} :
      p.Reports c (.error (.missingFinal (some p.name) cause)) := by
    intro item missing e
    cases e
  rw [judgeJoint] at h
  split at h
  case h_1 =>
    cases h
    exact unmarked
  case h_2 setting given =>
    split at h
    case h_1 =>
      cases h
      exact unmarked
    case h_2 final _ _ =>
      obtain h | ⟨items, read, h⟩ := bind_eq_error.1 h
      · obtain ⟨failure, -, rfl⟩ := Outcome.of_eq_error.1 h
        exact reports_ofFailure
      · replace read := Outcome.of_eq_ok.1 read
        dsimp only at h
        split at h
        case isTrue some =>
          cases h
          intro item missing e
          cases e
          refine ⟨rfl, by simpa using some, fun n mem => ?_⟩
          obtain ⟨mem, none⟩ := List.mem_filter.1 mem
          exact ⟨.inl (averagesItem_of_joint strategy given read mem), List.isEmpty_iff.1 none⟩
        case isFalse =>
          obtain h | ⟨values, -, h⟩ := bind_eq_error.1 h
          · obtain ⟨text, bindings, -, halted | ⟨failure, name, -, rfl⟩⟩ := computeJoint_eq_error h
            · exact reports_of_evaluateText halted
            · exact reports_ofFailure
          · split at h
            case h_1 =>
              cases h
              exact unmarked
            case h_2 =>
              obtain h | ⟨status, -, h⟩ := bind_eq_error.1 h
              · exact reports_of_accepts h
              · cases h

/-- An evaluation of samples reports as missing what formulas average. -/
lemma reports_of_evaluateSamples (fine : p.issues = [])
    (h : p.evaluateSamples s c raw = .error fault) : p.Reports c fault := by
  obtain h | ⟨named, -, h⟩ := bind_eq_error.1 h
  · exact reports_of_resolveVariables fine h
  obtain h | ⟨processed, -, h⟩ := bind_eq_error.1 h
  · exact reports_of_processSamples h
  rw [judge] at h
  split at h
  case h_1 => exact reports_of_judgeSamples h
  case h_2 strategy => exact reports_of_judgeJoint strategy h
  case h_3 => cases h

/-- An evaluation reports as missing what formulas average, or the source of the samples. -/
lemma reports_of_evaluate (fine : p.issues = []) (h : p.evaluate s c complete = .error fault) :
    p.Reports c fault := by
  have refused {defect : RequestDefect} :
      p.Reports c (.error (.validation (.text p.name) defect)) := by
    intro item missing e
    cases e
  rw [evaluate] at h
  split at h
  case isTrue =>
    cases h
    exact refused
  case isFalse =>
    split at h
    case isTrue => exact reports_of_evaluateSamples fine h
    case isFalse =>
      split at h
      case h_1 =>
        cases h
        exact refused
      case h_2 => cases h
      case h_3 derived =>
        obtain h | ⟨raw, -, h⟩ := bind_eq_error.1 h
        · obtain ⟨source, given, -⟩ := (sound_of_issues fine).ofDerived derived
          obtain ⟨n, name⟩ := Option.isSome_iff_exists.1 given
          rw [derivedSamples, name, Option.getD_some] at h
          split at h
          case isFalse => cases h
          case isTrue none =>
            cases h
            intro item missing e
            cases e
            refine ⟨rfl, List.cons_ne_nil _ _, fun m mem => ?_⟩
            obtain rfl := List.mem_singleton.1 mem
            exact ⟨.inr (source.trans name), List.isEmpty_iff.1 none⟩
        · exact reports_of_evaluateSamples fine h

/-! ### What has data -/

/-- Where samples come to a result without a fallback, all that formulas average has data. -/
lemma data_of_evaluateSamples (fine : p.issues = []) (plain : c.fallback = none) {r : Result}
    (h : p.evaluateSamples s c raw = .ok r) (averages : p.AveragesItem n) : c.values n ≠ [] := by
  obtain ⟨named, resolved, h⟩ := bind_eq_ok.1 h
  obtain ⟨processed, -, h⟩ := bind_eq_ok.1 h
  rcases averagesItem_cases averages with
    ⟨v, mem, averages⟩ | ⟨strategy, setting, given, f, mem, refs, read, averaged, foreign⟩
  · have ok : resolve p.declarations (.ofTable s.inputs) c (some p.name) = .ok named := by
      rw [resolveVariables] at resolved
      split at resolved
      case h_1 =>
        dsimp only at resolved
        split at resolved <;> cases resolved
      case h_2 => exact resolved
    have some := Resolution.data_of_resolve fine (Inputs.numeric_ofTable _) ok v mem n averages
    intro none
    rw [Context.averaged?_eq_none.2 ⟨none, plain⟩] at some
    cases some
  · rw [judge, strategy] at h
    obtain ⟨setting', _, _, items, _, _, _, given', -, told, data, -⟩ := judgeJoint_eq_ok h
    rw [given] at given'
    cases given'
    refine data n ((mem_jointReferences told).2 ⟨f, mem, refs, read, averaged, ?_⟩)
    rwa [mem_keys_sampleArrays]

end Point

/-- **The check of dependencies agrees with the evaluation.** The missing dependencies of a point of
an accepted product can be told. What an evaluation of it reports as missing is some of them. And if
there are any, no evaluation without a fallback comes to a status, unless the only one is the source
of a derived point's samples, samples were handed in for it, and no formula averages it. -/
theorem dependencies_agree {product : Product} (accepted : product.check = .ok product) {p : Point}
    (mem : p ∈ product.points) (s : Submission) (c : Context) (complete : Bool) :
    ∃ missing, p.missingDependencies [] c = .ok missing ∧
      (∀ item items, p.evaluate s c complete = raise (.missingDependency item items) →
        item = p.name ∧ items ≠ [] ∧ ∀ n ∈ items, n ∈ missing) ∧
      (c.fallback = none → missing ≠ [] →
        ∀ r, p.evaluate s c complete = .ok r → r.status.isSome →
          p.setup.source = .derived ∧ s.samples ≠ [] ∧
            ∃ source, p.setup.derivedFrom = some source ∧ missing = [source] ∧
              ¬ p.AveragesItem source) := by
  have fine : p.issues = [] := Product.issues_of_mem (Product.issues_of_check accepted).2 mem
  have sound := Point.sound_of_issues fine
  obtain ⟨missing, told, distinct, lacks⟩ := Point.missingDependencies_eq_ok sound c
  refine ⟨missing, told, ?_, ?_⟩
  · intro item items h
    obtain ⟨name, some, lack⟩ := Point.reports_of_evaluate fine h item items rfl
    exact ⟨name, some, fun n mem => (lacks n).2 (lack n mem)⟩
  · intro plain some r h judged
    obtain ⟨raw, takes, h⟩ := Point.takes_of_status h judged
    have data : ∀ n, p.AveragesItem n → c.values n ≠ [] := fun n =>
      Point.data_of_evaluateSamples fine plain h
    -- whatever is missing is the source, since all that formulas average has data
    have own : ∀ n ∈ missing,
        p.derivedSource? = .some n ∧ c.values n = [] ∧ ¬ p.AveragesItem n := by
      intro n mem
      obtain ⟨reads, none⟩ := (lacks n).1 mem
      have other : ¬ p.AveragesItem n := fun averages => data n averages none
      exact ⟨reads.resolve_left other, none, other⟩
    obtain ⟨source, mem⟩ := List.exists_mem_of_ne_nil missing some
    obtain ⟨from?, none, other⟩ := own source mem
    have derived : p.setup.source = .derived := by
      by_contra direct
      rw [Point.derivedSource?, if_neg direct] at from?
      cases from?
    obtain ⟨same, -⟩ := sound.ofDerived derived
    refine ⟨derived, ?_, source, same.symm.trans from?, ?_, other⟩
    · intro empty
      cases takes with
      | submitted _ given => exact given empty
      | derived _ _ _ found =>
        obtain ⟨given, -⟩ := Point.derivedSamples_eq_values found
        rw [← same, from?, Option.getD_some] at given
        exact given none
    · -- a derived point has one source, and what is missing is named once
      have all : ∀ n ∈ missing, n = source := fun n mem =>
        Option.some.inj ((own n mem).1.symm.trans from?)
      cases missing with
      | nil => exact absurd rfl some
      | cons first more =>
        obtain rfl := all first List.mem_cons_self
        have last : more = [] := by
          rw [List.eq_nil_iff_forall_not_mem]
          intro n later
          obtain rfl := all n (List.mem_cons_of_mem _ later)
          exact (List.nodup_cons.1 distinct).1 later
        rw [last]

namespace Strip

/-- The result of an edge that is measured on its own. -/
def edgeResult : Result where
  item := "edge"
  strategy := .perSample
  status := some true
  inputs := .ofList [("slack", 0.25)]
  resolved := []
  samples := [⟨⟨⟨1, Nat.one_pos⟩, some 2.0, none, none⟩, some true, some 2.0, []⟩]
  finalValue := none
  jointValues := []

/-- Without a width, an evaluation of the drift reports it. -/
lemma evaluate_drift : drift.evaluate (reading "drift" 2.0) .empty true =
    raise (.missingDependency "drift" ["width"]) := by
  have valid : ((reading "drift" 2.0).validate drift true).issues = [] := by decide +kernel
  have unresolved : drift.resolveVariables (reading "drift" 2.0) .empty =
      raise (.missingDependency "drift" ["width"]) := by
    rw [Point.resolveVariables, resolve_drift (x := 0.25) rfl]
    rfl
  rw [Point.evaluate, valid, if_neg (by simp), if_pos (by simp [reading]), Point.evaluateSamples,
    unresolved]
  rfl

/-- Without a width, the drift lacks it when it is checked and when it is evaluated, and an edge
that is measured on its own is judged though it lacks it too. -/
theorem dependencies_agree_without_width :
    (∃ missing, drift.missingDependencies [] .empty = .ok missing ∧ "width" ∈ missing) ∧
      edge.missingDependencies [] .empty = .ok ["width"] ∧
      edge.evaluate (reading "edge" 2.0) .empty true = .ok edgeResult := by
  have h : edge.evaluate (reading "edge" 2.0) .empty true = .ok edgeResult :=
    eq_ok_of_toOption (by decide +kernel)
  obtain ⟨lacked, toldDrift, reported, -⟩ :=
    dependencies_agree accepted (p := drift) (by simp [product]) (reading "drift" 2.0) .empty true
  obtain ⟨missing, toldEdge, -, unjudged⟩ :=
    dependencies_agree accepted (p := edge) (by simp [product]) (reading "edge" 2.0) .empty true
  refine ⟨⟨lacked, toldDrift, ?_⟩, ?_, h⟩
  · exact (reported _ _ evaluate_drift).2.2 _ List.mem_cons_self
  · have some : missing ≠ [] := by
      rintro rfl
      have told : (edge.missingDependencies [] .empty).toOption = .some ["width"] := by
        decide +kernel
      rw [toldEdge] at told
      cases told
    obtain ⟨-, -, source, name, only, -⟩ := unjudged rfl some _ h rfl
    rw [toldEdge, only, ← Option.some.inj name]

end Strip

end Inspection
