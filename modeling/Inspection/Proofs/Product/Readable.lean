import Inspection.Product.Loading
import Inspection.Proofs.Schema.Covering
import Inspection.Schema.Product

/-!
# Reading what keeps to the schema of products

The schema document of products, part by part, and what can go wrong with reading a part of a product
that keeps to its schema. Only counts of samples and orders of groups can, where they are written as
doubles too large for integers (`covers_read`). So a document that keeps to the schema is read just
if it has no such double, and loading it with the schema finds no other fault in the reading
(`Product.load_exact`).
-/

namespace Inspection

open Reader Reading

namespace Schema

/-! ## The schema -/

/-- The schema of how samples are taken. -/
def setup : Schema := record ["nature", "sample_amount"] [
  ("name", orNull text), ("nature", wordOf Nature), ("type", wordOf SampleShape),
  ("source", wordOf Source), ("source_derived_name_id", orNull text), ("sample_amount", count)]

/-- The schema of names that formulas can mention. -/
def identifier : Schema := like "^[A-Za-z_][A-Za-z0-9_]*$"

/-- The schema of variables. -/
def declaration : Schema := record ["name", "type"] [
  ("name", identifier), ("type", wordOf VariableKind), ("value", orNull number),
  ("formula", orNull text)]

/-- The schema of formulas over one sample. -/
def sampleFormula : Schema := record ["name", "formula"] [
  ("name", identifier), ("formula", filled), ("is_show", boolean)]

/-- The schema of formulas over all samples. -/
def jointFormula : Schema := record ["name", "formula"] [
  ("name", text), ("formula", filled), ("is_final_value", boolean)]

/-- The schema of what is judged of a sample. -/
def perSample : Schema := record ["is_raw_data"] [
  ("is_raw_data", boolean), ("pre_processing_formula_name", orNull text)]

/-- The schema of the formulas over all samples. -/
def joint : Schema := record ["formulas"] [("formulas", list jointFormula)]

/-- The schema of what is judged where nothing is measured. -/
def qualitative : Schema := record ["label"] [("label", text)]

/-- The schema of the settings of the strategies. -/
def setting : Schema := record [] [
  ("per_sample_setting", orNull perSample), ("joint_setting", orNull joint),
  ("qualitative_setting", orNull qualitative)]

/-- The schema of rules of acceptance. -/
def rule : Schema := record ["rule", "value", "unit"] [
  ("rule", wordOf RuleKind), ("value", number), ("unit", filled),
  ("tolerance_minus", orNull number), ("tolerance_plus", orNull number)]

/-- The schema of measurement points. -/
def point : Schema := record ["name_id", "setup", "evaluation_type"] [
  ("name_id", identifier), ("setup", setup), ("variables", list declaration),
  ("pre_processing_formulas", list sampleFormula), ("evaluation_type", wordOf Strategy),
  ("evaluation_setting", setting), ("rule_evaluation_setting", orNull rule)]

/-- The schema of groups. -/
def group : Schema := record ["group_name", "measurement_items"] [
  ("group_name", text), ("order", integer), ("measurement_items", list text)]

/-- The schema of the mark that a document is a product's. -/
def mark : Schema := [.constant (.text "product_spec")]

/-- The schema of the names of products. -/
def productId : Schema := like "^[A-Za-z0-9_.-]+$"

/-- The schema of products. -/
def product : Schema := record ["type", "product_id", "name", "measurement_points"] [
  ("type", mark), ("product_id", productId), ("name", filled),
  ("category", orNull text), ("description", orNull text),
  ("measurement_points", filledList point), ("measurement_groups", list group)]

/-- The edition that the schema document says it keeps to. -/
lemma editionOf_productDocument : editionOf productDocument = .early := by
  -- how a text starts is decided by the kernel alone
  decide +kernel

/-- The schema that the schema document writes. -/
lemma ofDocument?_productDocument : ofDocument? productDocument = some product := by
  rw [ofDocument?, editionOf_productDocument]
  rfl

/-! ## The parts of products -/

/-- How samples are taken can be read unless their number is too large. -/
lemma covers_setup : Covers setup Setup.read {[.member "sample_amount"]} := by
  apply Covers.ofMembers
  intro ms range keeps
  -- the places come out of the members, so that they are the right ones is left for last
  apply Reports.places (Reports.map ?name |>.both ?nature |>.both ?shape |>.both ?source
    |>.both ?derived |>.both ?amount) ?same
  case name => exact covers_text.absentable rfl range keeps (by simp)
  case nature => exact covers_wordOf.required range keeps (by simp) (by simp)
  case shape => exact covers_wordOf.optional range keeps (by simp)
  case source => exact covers_wordOf.optional range keeps (by simp)
  case derived => exact covers_text.absentable rfl range keeps (by simp)
  case amount => exact covers_count.required range keeps (by simp) (by simp)
  case same => simp [Step.before]

/-- Names that formulas can mention can be read. -/
lemma covers_identifier : Covers identifier Reader.text ∅ :=
  covers_like

/-- Variables can be read. -/
lemma covers_declaration : Covers declaration Variable.read ∅ := by
  apply Covers.ofMembers
  intro ms range keeps
  apply Reports.places (Reports.map ?name |>.both ?word |>.both ?value |>.both ?formula) ?same
  case name => exact covers_identifier.required range keeps (by simp) (by simp)
  case word => exact covers_wordOf.required range keeps (by simp) (by simp)
  case value => exact covers_number.absentable rfl range keeps (by simp)
  case formula => exact covers_text.absentable rfl range keeps (by simp)
  case same => simp

/-- Formulas over one sample can be read. -/
lemma covers_sampleFormula : Covers sampleFormula SampleFormula.read ∅ := by
  apply Covers.ofMembers
  intro ms range keeps
  apply Reports.places (Reports.map ?name |>.both ?formula |>.both ?shown) ?same
  case name => exact covers_identifier.required range keeps (by simp) (by simp)
  case formula => exact covers_filled.required range keeps (by simp) (by simp)
  case shown => exact covers_boolean.optional range keeps (by simp)
  case same => simp

/-- Formulas over all samples can be read. -/
lemma covers_jointFormula : Covers jointFormula JointFormula.read ∅ := by
  apply Covers.ofMembers
  intro ms range keeps
  apply Reports.places (Reports.map ?name |>.both ?formula |>.both ?final) ?same
  case name => exact covers_text.required range keeps (by simp) (by simp)
  case formula => exact covers_filled.required range keeps (by simp) (by simp)
  case final => exact covers_boolean.optional range keeps (by simp)
  case same => simp

/-- What is judged of a sample can be read. -/
lemma covers_perSample : Covers perSample PerSampleSetting.read ∅ := by
  apply Covers.ofMembers
  intro ms range keeps
  apply Reports.places (Reports.map ?raw |>.both ?formula) ?same
  case raw => exact covers_boolean.required range keeps (by simp) (by simp)
  case formula => exact covers_text.absentable rfl range keeps (by simp)
  case same => simp

/-- The formulas over all samples can be read. -/
lemma covers_joint : Covers joint JointSetting.read ∅ := by
  apply Covers.ofMembers
  intro ms range keeps
  apply Reports.places (Reports.map ?formulas) ?same
  case formulas => exact covers_jointFormula.list.required range keeps (by simp) (by simp)
  case same => simp

/-- What is judged where nothing is measured can be read. -/
lemma covers_qualitative : Covers qualitative QualitativeSetting.read ∅ := by
  apply Covers.ofMembers
  intro ms range keeps
  apply Reports.places (Reports.map ?label) ?same
  case label => exact covers_text.required range keeps (by simp) (by simp)
  case same => simp

/-- The settings of the strategies can be read. -/
lemma covers_setting : Covers setting EvaluationSetting.read ∅ := by
  apply Covers.ofMembers
  intro ms range keeps
  apply Reports.places (Reports.map ?perSample |>.both ?joint |>.both ?qualitative) ?same
  case perSample => exact covers_perSample.absentable rfl range keeps (by simp)
  case joint => exact covers_joint.absentable rfl range keeps (by simp)
  case qualitative => exact covers_qualitative.absentable rfl range keeps (by simp)
  case same => simp

/-- Rules of acceptance can be read. -/
lemma covers_rule : Covers rule Rule.read ∅ := by
  apply Covers.ofMembers
  intro ms range keeps
  apply Reports.places (Reports.map ?word |>.both ?value |>.both ?unit |>.both ?minus
    |>.both ?plus) ?same
  case word => exact covers_wordOf.required range keeps (by simp) (by simp)
  case value => exact covers_number.required range keeps (by simp) (by simp)
  case unit => exact covers_filled.required range keeps (by simp) (by simp)
  case minus => exact covers_number.absentable rfl range keeps (by simp)
  case plus => exact covers_number.absentable rfl range keeps (by simp)
  case same => simp

/-- Points can be read unless the number of their samples is too large. -/
lemma covers_point : Covers point Point.read {[.member "setup", .member "sample_amount"]} := by
  apply Covers.ofMembers
  intro ms range keeps
  apply Reports.places (Reports.map ?name |>.both ?setup |>.both ?declarations
    |>.both ?formulas |>.both ?strategy |>.both ?setting |>.both ?rule) ?same
  case name => exact covers_identifier.required range keeps (by simp) (by simp)
  case setup => exact covers_setup.required range keeps (by simp) (by simp)
  case declarations => exact covers_declaration.list.optional range keeps (by simp)
  case formulas => exact covers_sampleFormula.list.optional range keeps (by simp)
  case strategy => exact covers_wordOf.required range keeps (by simp) (by simp)
  case setting => exact covers_setting.optional range keeps (by simp)
  case rule => exact covers_rule.absentable rfl range keeps (by simp)
  case same => simp [Step.before]

/-- Groups can be read unless their order is too large. -/
lemma covers_group : Covers group Group.read {[.member "order"]} := by
  apply Covers.ofMembers
  intro ms range keeps
  apply Reports.places (Reports.map ?name |>.both ?order |>.both ?items) ?same
  case name => exact covers_text.required range keeps (by simp) (by simp)
  case order => exact covers_integer.optional range keeps (by simp)
  case items => exact covers_text.list.required range keeps (by simp) (by simp)
  case same => simp [Step.before]

/-- Names of products can be read. -/
lemma covers_productId : Covers productId Reader.text ∅ :=
  covers_like

/-- The mark can be read. -/
lemma covers_mark : Covers mark (keyword : Reader ProductMark) ∅ := by
  apply Covers.of_found
  intro j _ keeps
  obtain rfl := Json.eq_of_same_text (keeps.fixed List.mem_cons_self)
  exact ⟨.product, rfl⟩

end Schema

/-! ## Products -/

namespace Product

/-- The places of a product document at which integers are read. -/
def integerPlaces : Set (List Step) :=
  {place | ∃ i,
    place = [.member "measurement_points", .item i, .member "setup", .member "sample_amount"] ∨
    place = [.member "measurement_groups", .item i, .member "order"]}

/-- The places of integers are in the setups of points, and in groups. -/
lemma integerPlaces_eq : integerPlaces =
    (Step.member "measurement_points").before
        (Step.inItems 0 {[.member "setup", .member "sample_amount"]}) ∪
      (Step.member "measurement_groups").before (Step.inItems 0 {[.member "order"]}) := by
  ext place
  constructor
  · rintro ⟨i, rfl | rfl⟩
    · exact .inl ⟨_, ⟨i, _, Nat.zero_le i, rfl, rfl⟩, rfl⟩
    · exact .inr ⟨_, ⟨i, _, Nat.zero_le i, rfl, rfl⟩, rfl⟩
  · rintro (⟨_, ⟨i, _, -, rfl, rfl⟩, rfl⟩ | ⟨_, ⟨i, _, -, rfl, rfl⟩, rfl⟩)
    · exact ⟨i, .inl rfl⟩
    · exact ⟨i, .inr rfl⟩

/-- Products can be read unless a number of samples or an order is too large. -/
lemma covers_read : Schema.product.Covers read integerPlaces := by
  apply Schema.Covers.ofMembers
  intro ms range keeps
  apply Reports.places (Reports.map ?mark |>.both ?id |>.both ?name |>.both ?category
    |>.both ?description |>.both ?points |>.both ?groups) ?same
  case mark => exact Schema.covers_mark.optional range keeps (by simp)
  case id => exact Schema.covers_productId.required range keeps (by simp) (by simp)
  case name => exact Schema.covers_filled.required range keeps (by simp) (by simp)
  case category => exact Schema.covers_text.absentable rfl range keeps (by simp)
  case description => exact Schema.covers_text.absentable rfl range keeps (by simp)
  case points =>
    exact Schema.covers_point.filledList.required range keeps (by simp) (by simp)
  case groups => exact Schema.covers_group.list.optional range keeps (by simp)
  case same => simp [integerPlaces_eq]

/-- A product that is turned down by the check is turned down for its issues. -/
lemma check_eq_schema {p : Product} {id : Json} {defects : List ProductDefect}
    (h : p.check = raise (.schema id defects)) : defects = p.issues.map .issue := by
  rw [check, reported] at h
  split at h
  case h_1 o _ => cases o <;> cases h
  case h_2 =>
    rw [ok_bind] at h
    split at h
    case isTrue => cases h
    case isFalse =>
      cases h
      rfl

/-- **A document that keeps to the schema is read as a product, but for numbers of samples and orders
that are written as doubles and too large for integers.** Whatever document is loaded with the
schema, a problem of reading it is such a double, and the problem tells where it is. -/
theorem load_exact (data : Json) (range : data.InRange) (schema : Schema)
    (shipped : Schema.ofDocument? Schema.productDocument = some schema) :
    (schema.violation? data = none →
      ((∃ p, read data = found p) ↔ ∀ place ∈ integerPlaces, ¬ data.Oversized place)) ∧
    ∀ id defects p, load (some schema) data = raise (.schema id defects) →
      .document p ∈ defects →
        p.mismatch = .beyondInteger ∧ p.path ∈ integerPlaces ∧ data.Oversized p.path := by
  obtain rfl : Schema.product = schema :=
    Option.some.inj (Schema.ofDocument?_productDocument.symm.trans shipped)
  have reports : Schema.product.violation? data = none →
      (read data).Reports (data.overflows integerPlaces) :=
    fun kept => covers_read data range (Schema.violation?_eq_none_iff.1 kept)
  constructor
  · intro kept
    rw [exists_found_iff (reports kept)]
    constructor
    · intro none place mem large
      have there : (⟨place, .beyondInteger⟩ : Problem) ∈ data.overflows integerPlaces :=
        ⟨rfl, mem, large⟩
      rw [none] at there
      exact there
    · intro none
      apply Set.eq_empty_of_forall_notMem
      rintro p ⟨-, mem, large⟩
      exact none _ mem large
  · intro id defects p loaded mem
    rw [load, Option.bind_some] at loaded
    split at loaded
    case h_1 v _ =>
      cases loaded
      cases List.mem_singleton.1 mem
    case h_2 kept =>
      replace reports := reports kept
      split at loaded
      case h_1 ps refused =>
        cases loaded
        obtain ⟨q, here, same⟩ := List.mem_map.1 mem
        cases same
        rw [refused] at reports
        exact reports.mem here
      case h_2 q _ =>
        rw [check_eq_schema loaded] at mem
        obtain ⟨i, -, other⟩ := List.mem_map.1 mem
        cases other

end Product

namespace Wire

/-- A wire that is judged by eye, with a number of samples. -/
def document (amount : Json) : Json :=
  .record [
    ("type", .text "product_spec"), ("product_id", .text "wire"), ("name", .text "Wire"),
    ("measurement_points", .list [.record [
      ("name_id", .text "gloss"),
      ("setup", .record [("nature", .text "QUALITATIVE"), ("sample_amount", amount)]),
      ("evaluation_type", .text "SKIP_CHECK")]])]

/-- The only integer of the document is the number of samples. -/
lemma part_document {amount j : Json} {place : List Step} (mem : place ∈ Product.integerPlaces)
    (there : (document amount).part? place = some j) : j = amount := by
  obtain ⟨i, rfl | rfl⟩ := mem
  · cases i with
    | zero => exact (Option.some.inj there).symm
    | succ i => cases there
  · cases there

/-- A number of samples that is written as a double is read if it is small enough. -/
theorem load_exact_wire : (document (.float 3.0)).InRange ∧
    Schema.ofDocument? Schema.productDocument = some Schema.product ∧
    Schema.product.violation? (document (.float 3.0)) = none ∧
    ∃ p, Product.read (document (.float 3.0)) = found p := by
  have range : (document (.float 3.0)).InRange := by simp [document]
  have shipped := Schema.ofDocument?_productDocument
  have kept : Schema.product.violation? (document (.float 3.0)) = none :=
    Option.isNone_iff_eq_none.1 (by decide +kernel)
  refine ⟨range, shipped, kept, ((Product.load_exact _ range _ shipped).1 kept).2 ?_⟩
  rintro place mem ⟨x, there, large⟩
  cases part_document mem there
  have whole : whole? 3.0 = some 3 := by decide +kernel
  rw [← cast_of_whole whole] at large
  norm_num at large

/-- A number of samples that is too large keeps to the schema and cannot be read. -/
theorem large_double_refused : (document (.float 1e19)).InRange ∧
    (∃ schema, Schema.ofDocument? Schema.productDocument = some schema ∧
      schema.violation? (document (.float 1e19)) = none) ∧
    ¬ ∃ p, Product.read (document (.float 1e19)) = found p := by
  refine ⟨by simp [document], ⟨_, Schema.ofDocument?_productDocument, ?_⟩, ?_⟩
  · exact Option.isNone_iff_eq_none.1 (by decide +kernel)
  · have refused : (match Product.read (document (.float 1e19)) with
        | .found _ => true
        | .refused _ => false) = false := by decide +kernel
    rintro ⟨p, read⟩
    rw [read] at refused
    cases refused

end Wire

end Inspection
