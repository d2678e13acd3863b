import Inspection.Product.Loading
import Inspection.Product.Order
import Inspection.Proofs.Formula.References
import Inspection.Proofs.Product.Acyclic

/-!
# What checked products can be relied on for

A point without issues is `Sound`: its formulas can be read, those of its variables average no name
of its own, and a derived one has a source and takes single numbers. A product without issues is
`Sound`: its points have distinct names and are sound, read only points of the product, and do not
read one another in a circle (`Product.sound_of_issues`); so a product that passes the check is
sound (`Product.sound_of_check`).
-/

namespace Inspection

open Formula

/-- The foreign names are those found before and those that are not local. -/
lemma Point.mem_addForeign {arrays found names : List String} {n : String} :
    n ∈ addForeign arrays found names ↔ n ∈ found ∨ n ∈ names ∧ n ∉ arrays := by
  induction names generalizing found with
  | nil => simp [addForeign]
  | cons name rest ih =>
    simp only [addForeign] at ih ⊢
    rw [List.foldl_cons, ih, List.mem_cons]
    by_cases own : name ∈ arrays
    · rw [if_pos own]
      constructor
      · rintro (mem | ⟨mem, other⟩)
        · exact .inl mem
        · exact .inr ⟨.inr mem, other⟩
      · rintro (mem | ⟨rfl | mem, other⟩)
        · exact .inl mem
        · exact absurd own other
        · exact .inr ⟨mem, other⟩
    · rw [if_neg own, mem_addNew]
      constructor
      · rintro ((mem | rfl) | ⟨mem, other⟩)
        · exact .inl mem
        · exact .inr ⟨.inl rfl, own⟩
        · exact .inr ⟨.inr mem, other⟩
      · rintro (mem | ⟨rfl | mem, other⟩)
        · exact .inl (.inl mem)
        · exact .inl (.inr rfl)
        · exact .inr ⟨mem, other⟩

namespace Point

/-- What a point without issues can be relied on for. -/
structure Sound (p : Point) : Prop where
  /-- The formulas of variables can be read, and average other items only. -/
  ofVariables : ∀ v ∈ p.declarations, v.kind = .formula → ∀ text,
    v.formula.filter (· ≠ "") = some text →
      ∃ r, references text = .ok r ∧ ∀ n ∈ r.averaged, n ∉ p.arrayNames
  /-- The formulas over all samples can be read. -/
  ofJoint : p.strategy = .joint → ∀ s, p.setting.joint = some s → ∀ f ∈ s.formulas,
    ∃ r, references f.formula = .ok r
  /-- A derived point has a source, and takes single numbers. -/
  ofDerived : p.setup.source = .derived →
    p.derivedSource? = p.setup.derivedFrom ∧ p.setup.derivedFrom.isSome ∧
      p.setup.shape = .single ∧ p.setup.nature = .quantitative

/-- A variable of a list without issues has none. -/
lemma variableIssues_of_mem {p : Point} {declared : List String} {vs : List Variable}
    (h : p.variablesIssues declared vs = []) {v : Variable} (mem : v ∈ vs) :
    ∃ declared, p.variableIssues declared v = [] := by
  induction vs generalizing declared with
  | nil => cases mem
  | cons w rest ih =>
    rw [variablesIssues, List.append_eq_nil_iff, List.map_eq_nil_iff] at h
    rcases List.mem_cons.1 mem with rfl | mem
    · exact ⟨declared, h.1⟩
    · exact ih h.2 mem

/-- The formula of a variable without issues can be read, and averages other items only. -/
lemma readable_of_variableIssues {p : Point} {declared : List String} {v : Variable}
    (h : p.variableIssues declared v = []) (kind : v.kind = .formula) {text : String}
    (given : v.formula.filter (· ≠ "") = some text) :
    ∃ r, references text = .ok r ∧ ∀ n ∈ r.averaged, n ∉ p.arrayNames := by
  rw [variableIssues, kind, given, List.append_eq_nil_iff] at h
  replace h := h.2
  dsimp only at h
  split at h
  case h_1 => cases h
  case h_2 r read =>
    refine ⟨r, read, ?_⟩
    rw [mentionIssues, List.append_eq_nil_iff, List.filterMap_eq_nil_iff,
      List.filterMap_eq_nil_iff] at h
    intro n mem own
    have none := h.2 n mem
    rw [if_pos own] at none
    split at none <;> cases none

/-- A formula of a list without issues can be read. -/
lemma readable_of_jointFormulasIssues {available : List String} {fs : List JointFormula}
    (h : jointFormulasIssues available fs = []) {f : JointFormula} (mem : f ∈ fs) :
    ∃ r, references f.formula = .ok r := by
  induction fs generalizing available with
  | nil => cases mem
  | cons g rest ih =>
    rw [jointFormulasIssues, List.append_eq_nil_iff, List.map_eq_nil_iff] at h
    rcases List.mem_cons.1 mem with rfl | mem
    · have own := h.1
      rw [jointFormulaIssues] at own
      split at own
      case h_1 => cases own
      case h_2 r read => exact ⟨r, read⟩
    · exact ih h.2 mem

/-- A point without issues is sound. -/
lemma sound_of_issues {p : Point} (h : p.issues = []) : p.Sound := by
  simp only [issues, List.append_eq_nil_iff] at h
  obtain ⟨⟨⟨⟨-, source⟩, declared⟩, -⟩, setting⟩ := h
  refine ⟨?_, ?_, ?_⟩
  · intro v mem kind text given
    obtain ⟨before, none⟩ := variableIssues_of_mem declared mem
    exact readable_of_variableIssues none kind given
  · intro strategy s hs f mem
    rw [settingIssues, strategy, hs] at setting
    dsimp only at setting
    split at setting
    case isTrue => cases setting
    case isFalse =>
      rw [List.append_eq_nil_iff] at setting
      exact readable_of_jointFormulasIssues setting.2 mem
  · intro derived
    rw [sourceIssues, if_pos derived, List.append_eq_nil_iff] at source
    obtain ⟨from?, shape⟩ := source
    rw [derivedSource?, if_pos derived] at from? ⊢
    cases given : p.setup.derivedFrom with
    | none => simp [given] at from?
    | some name =>
      by_cases empty : name = ""
      · simp [given, empty] at from?
      · refine ⟨by simp [empty], rfl, ?_⟩
        by_contra other
        rw [if_pos (by tauto)] at shape
        cases shape

/-- The formulas in which an average may be that of another item are those of variables, and those
over all samples where these are used. -/
lemma mem_averagingFormulas {p : Point} {text : String} :
    text ∈ p.averagingFormulas ↔
      (∃ v ∈ p.declarations, v.kind = .formula ∧ v.formula.filter (· ≠ "") = some text) ∨
        p.strategy = .joint ∧ ∃ s, p.setting.joint = some s ∧
          ∃ f ∈ s.formulas, f.formula = text := by
  rw [averagingFormulas, List.mem_append, List.mem_filterMap]
  refine or_congr ⟨?_, ?_⟩ ⟨?_, ?_⟩
  · rintro ⟨v, mem, given⟩
    split at given
    case isFalse => cases given
    case isTrue kind => exact ⟨v, mem, kind, given⟩
  · rintro ⟨v, mem, kind, given⟩
    exact ⟨v, mem, by rw [if_pos kind, given]⟩
  · intro mem
    split at mem
    case h_2 => cases mem
    case h_1 s strategy given => exact ⟨strategy, s, given, List.mem_map.1 mem⟩
  · rintro ⟨strategy, s, given, mem⟩
    rw [strategy, given]
    exact List.mem_map.2 mem

/-- The items that a sound point reads can be told. -/
lemma Sound.itemReferences {p : Point} (sound : p.Sound) :
    ∃ items, p.itemReferences = .ok items := by
  have readable : ∀ text ∈ p.averagingFormulas, ∃ r, referencesOf text = .ok r := by
    intro text mem
    simp only [referencesOf_eq_ok]
    rcases mem_averagingFormulas.1 mem with ⟨v, hv, kind, given⟩ | ⟨strategy, s, given, f, hf, rfl⟩
    · obtain ⟨r, read, -⟩ := sound.ofVariables v hv kind text given
      exact ⟨r, read⟩
    · exact sound.ofJoint strategy s given f hf
  obtain ⟨rs, h⟩ := mapM_of_forall readable
  rw [Point.itemReferences, h]
  exact ⟨_, rfl⟩

/-- The foreign names of formulas are those that one of them averages, local names apart. -/
lemma mem_foreign {α : Type} {arrays : List String} {text : α → String} {fs : List α}
    {rs : List References} (read : (fs.mapM fun f => referencesOf (text f)) = .ok rs) {n : String} :
    n ∈ addForeign arrays [] (rs.flatMap References.averaged) ↔
      ∃ f ∈ fs, ∃ r, references (text f) = .ok r ∧ n ∈ r.averaged ∧ n ∉ arrays := by
  rw [mem_addForeign, List.mem_flatMap]
  constructor
  · rintro (mem | ⟨⟨r, hr, mem⟩, other⟩)
    · cases mem
    · obtain ⟨f, hf, own⟩ := exists_mem_of_mapM read hr
      exact ⟨f, hf, r, referencesOf_eq_ok.1 own, mem, other⟩
  · rintro ⟨f, hf, r, own, mem, other⟩
    obtain ⟨r', hr, own'⟩ := exists_of_mapM read hf
    rw [referencesOf_eq_ok, own] at own'
    cases own'
    exact .inr ⟨⟨r, hr, mem⟩, other⟩

/-- A formula that the point evaluates takes the average of the other item; under the name of an
array of its own, it would take that of its own samples. -/
def AveragesItem (p : Point) (n : String) : Prop :=
  ∃ text ∈ p.averagingFormulas, ∃ r,
    references text = .ok r ∧ n ∈ r.averaged ∧ n ∉ p.arrayNames

/-- What a sound point's variables average are other items. -/
lemma Sound.averagesItem {p : Point} (sound : p.Sound) {v : Variable} (mem : v ∈ p.declarations)
    (kind : v.kind = .formula) {text : String} (given : v.formula.filter (· ≠ "") = some text)
    {r : References} (read : references text = .ok r) {n : String} (averaged : n ∈ r.averaged) :
    p.AveragesItem n := by
  obtain ⟨r', read', foreign⟩ := sound.ofVariables v mem kind text given
  obtain rfl : r = r' := Except.ok.inj (read.symm.trans read')
  have own : text ∈ p.averagingFormulas := mem_averagingFormulas.2 (.inl ⟨v, mem, kind, given⟩)
  exact ⟨text, own, r, read, averaged, foreign n averaged⟩

/-- A point reads the items that its formulas average, and its source. -/
lemma mem_itemReferences {p : Point} {items : List String} (h : p.itemReferences = .ok items)
    {n : String} : n ∈ items ↔ p.AveragesItem n ∨ p.derivedSource? = some n := by
  obtain ⟨rs, read, e⟩ := bind_eq_ok.1 h
  rw [AveragesItem, ← mem_foreign read]
  cases source : p.derivedSource? with
  | none =>
    rw [source] at e
    cases pure_eq_ok.1 e
    simp
  | some s =>
    rw [source] at e
    cases pure_eq_ok.1 e
    rw [mem_addNew, Option.some.injEq, @eq_comm _ s]

end Point

namespace Product

/-- The items that an item reads, none where its formulas cannot be read. -/
def reads (p : Product) (item : String) : List String :=
  (p.references item).toOption.getD []

/-- What a product without issues can be relied on for. -/
structure Sound (p : Product) : Prop where
  distinct : (p.points.map Point.name).Nodup
  points : ∀ point ∈ p.points, point.Sound
  /-- What is read is a point. -/
  known : ∀ a, ∀ b ∈ p.reads a, b ∈ p.pointNames
  /-- No item leads back to itself. -/
  acyclic : WellFounded fun b a => b ∈ p.reads a

/-- Points of which none bears the name of one before it have distinct names. -/
lemma nodup_of_repeatedNames {before : List String} {points : List Point}
    (h : repeatedNames before points = []) :
    (points.map Point.name).Nodup ∧ ∀ point ∈ points, point.name ∉ before := by
  induction points generalizing before with
  | nil => simp
  | cons point rest ih =>
    rw [repeatedNames, List.append_eq_nil_iff] at h
    obtain ⟨first, later⟩ := h
    have new : point.name ∉ before := by
      intro mem
      rw [if_pos mem] at first
      cases first
    obtain ⟨distinct, others⟩ := ih later
    constructor
    · rw [List.map_cons, List.nodup_cons]
      refine ⟨?_, distinct⟩
      intro mem
      obtain ⟨other, ho, e⟩ := List.mem_map.1 mem
      exact others other ho (mem_addNew.2 (.inr e))
    · intro other mem
      rcases List.mem_cons.1 mem with rfl | mem
      · exact new
      · intro old
        exact others other mem (mem_addNew.2 (.inl old))

/-- The point of a name is one of the points, and bears the name. -/
lemma point?_eq_some {p : Product} {item : String} {point : Point}
    (h : p.point? item = some point) : point ∈ p.points ∧ point.name = item := by
  rw [point?] at h
  exact ⟨List.mem_of_find?_eq_some h, by simpa using List.find?_some h⟩

/-- Among points with distinct names each is found by its own. -/
lemma point?_of_mem {p : Product} (distinct : (p.points.map Point.name).Nodup) {point : Point}
    (mem : point ∈ p.points) : p.point? point.name = some point := by
  have found : (p.point? point.name).isSome := by
    rw [point?, List.find?_isSome]
    exact ⟨point, mem, by simp⟩
  obtain ⟨other, ho⟩ := Option.isSome_iff_exists.1 found
  obtain ⟨hm, name⟩ := point?_eq_some ho
  rw [ho, List.inj_on_of_nodup_map distinct hm mem name]

/-- What a point reads, by its name. -/
lemma references_of_point? {p : Product} {item : String} {point : Point}
    (h : p.point? item = some point) : p.references item = point.itemReferences := by
  rw [references, h]

/-- Where the formulas of points can be read, so can what any item reads be told. -/
lemma references_eq_ok {p : Product} (points : ∀ point ∈ p.points, point.Sound) (item : String) :
    p.references item = .ok (p.reads item) := by
  rw [reads]
  cases h : p.point? item with
  | none => simp [references, h, Except.toOption]
  | some point =>
    obtain ⟨items, e⟩ := (points point (point?_eq_some h).1).itemReferences
    rw [references_of_point? h, e]
    rfl

/-- The edges of the reading graph lead from each item to those that it reads. -/
lemma edge_readingGraph {p : Product} (distinct : (p.points.map Point.name).Nodup)
    (points : ∀ point ∈ p.points, point.Sound)
    (known : ∀ a, ∀ b ∈ p.reads a, b ∈ p.pointNames) {a b : String} (h : b ∈ p.reads a) :
    p.readingGraph.Edge a b := by
  cases found : p.point? a with
  | none => simp [reads, references, found, Except.toOption] at h
  | some point =>
    obtain ⟨mem, rfl⟩ := point?_eq_some found
    have items := references_eq_ok points point.name
    rw [references_of_point? found] at items
    refine ⟨(p.reads point.name).filter (· ∈ p.pointNames), ?_, ?_⟩
    · have rows : p.readingGraph = Table.ofList (p.points.map fun point =>
          (point.name, (p.reads point.name).filter (· ∈ p.pointNames))) := by
        rw [readingGraph, ← List.filterMap_eq_map]
        congr 1
        apply List.filterMap_congr
        intro q hq
        have e := references_eq_ok points q.name
        rw [references_of_point? (point?_of_mem distinct hq)] at e
        rw [e]
        rfl
      rw [rows, Table.find?_ofList_map distinct]
      exact ⟨point, mem, rfl, rfl⟩
    · simpa [h] using known _ b h

/-- The points of a product without issues have none. -/
lemma issues_of_mem {p : Product} (h : p.issues = []) {point : Point} (mem : point ∈ p.points) :
    point.issues = [] := by
  rw [issues, List.append_eq_nil_iff, List.append_eq_nil_iff, List.flatMap_eq_nil_iff] at h
  have none := h.1.2 point mem
  rw [pointIssues, List.append_eq_nil_iff, List.map_eq_nil_iff] at none
  exact none.1

/-- A product without issues is sound. -/
theorem sound_of_issues {p : Product} (h : p.issues = []) : p.Sound := by
  have fine := h
  rw [issues, List.append_eq_nil_iff, List.append_eq_nil_iff, List.map_eq_nil_iff,
    List.flatMap_eq_nil_iff, Option.toList_eq_nil_iff, Option.map_eq_none_iff] at h
  obtain ⟨⟨repeated, ofPoints⟩, cycle⟩ := h
  have distinct := (nodup_of_repeatedNames repeated).1
  have points : ∀ point ∈ p.points, point.Sound := fun point mem =>
    Point.sound_of_issues (issues_of_mem fine mem)
  have known : ∀ a, ∀ b ∈ p.reads a, b ∈ p.pointNames := by
    intro a b hb
    cases found : p.point? a with
    | none => simp [reads, references, found, Except.toOption] at hb
    | some point =>
      have none := ofPoints point (point?_eq_some found).1
      rw [pointIssues, ← references_of_point? found, references_eq_ok points,
        List.append_eq_nil_iff, List.filterMap_eq_nil_iff] at none
      by_contra unknown
      have := none.2 b hb
      rw [if_pos unknown] at this
      cases this
  refine ⟨distinct, points, known, ?_⟩
  exact Subrelation.wf (edge_readingGraph distinct points known)
    (Graph.wellFounded_of_cycle? cycle)

/-- A product that passes the checks is the one that was checked, and has no issues. -/
lemma issues_of_check {p q : Product} (h : p.check = .ok q) : q = p ∧ p.issues = [] := by
  obtain ⟨issues, reported, h⟩ := bind_eq_ok.1 h
  split at h
  case isFalse => cases h
  case isTrue none =>
    refine ⟨(pure_eq_ok.1 h).symm, ?_⟩
    rw [Product.reported] at reported
    split at reported
    case h_1 => cases reported
    case h_2 =>
      cases reported
      simpa using none

/-- A product that passes the checks is the one that was checked, and sound. -/
theorem sound_of_check {p q : Product} (h : p.check = .ok q) : q = p ∧ p.Sound := by
  obtain ⟨same, fine⟩ := issues_of_check h
  exact ⟨same, sound_of_issues fine⟩

end Product

end Inspection
