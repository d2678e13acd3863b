import Inspection.Submission.Validation
import Mathlib.Data.List.Nodup
import Mathlib.Tactic.Lemma

/-!
# The shape of submissions

A sample `Fills` its setup if it holds what the setup asks for and nothing else, and a submission is
`Shaped` if it names its point, its samples have distinct indexes and fill their setup, and there are
as many as the point asks for. The validation overlooks the numbers of samples that are judged: what
it accepts has the shape once these are dropped (`Submission.validate_exact`).
-/

namespace Inspection

namespace Sample

/-- The sample holds what the setup asks for, and nothing else. -/
def Fills (x : Sample) (setup : Setup) : Prop :=
  match setup.nature, setup.shape with
  | .qualitative, _ => x.judgement.isSome ∧ x.single = none ∧ x.pair = none
  | .quantitative, .single => x.single.isSome ∧ x.pair = none ∧ x.judgement = none
  | .quantitative, .beforeAfter => x.pair.isSome ∧ x.single = none ∧ x.judgement = none

/-- What the validation looks at: of a sample that is judged not the numbers. -/
def considered (x : Sample) (setup : Setup) : Sample :=
  match setup.nature with
  | .qualitative => { x with single := none, pair := none }
  | .quantitative => x

/-- Nothing is wrong with a sample just if what is looked at fills the setup. -/
lemma issues_eq_nil_iff {x : Sample} {setup : Setup} :
    x.issues setup = [] ↔ (x.considered setup).Fills setup := by
  rw [issues, Fills, considered]
  cases setup.nature with
  | qualitative => cases x.judgement <;> simp
  | quantitative =>
    cases setup.shape with
    | single => cases x.judgement <;> cases x.single <;> cases x.pair <;> simp
    | beforeAfter => cases x.judgement <;> cases x.single <;> cases x.pair <;> simp

/-- A sample fills its setup just if what is looked at does, and is all that it holds. -/
lemma fills_iff {x : Sample} {setup : Setup} :
    x.Fills setup ↔ (x.considered setup).Fills setup ∧ x.considered setup = x := by
  rw [Fills, Fills, considered]
  cases setup.nature with
  | qualitative =>
    obtain ⟨index, single, pair, judgement⟩ := x
    constructor
    · rintro ⟨judged, rfl, rfl⟩
      exact ⟨⟨judged, rfl, rfl⟩, rfl⟩
    · rintro ⟨⟨judged, -, -⟩, same⟩
      cases same
      exact ⟨judged, rfl, rfl⟩
  | quantitative => simp

end Sample

namespace Submission

/-- The shape that a point asks for, as far as samples go by a demand on each. -/
structure Shaped (s : Submission) (p : Point) (complete : Bool) (fits : Sample → Prop) : Prop where
  item : s.item = p.name
  distinct : (s.samples.map Sample.index).Nodup
  samples : ∀ x ∈ s.samples, fits x
  /-- A complete submission has the full number of samples, or none. -/
  amount : complete = true → s.samples ≠ [] → s.samples.length = p.setup.sampleAmount.val

/-- Nothing is wrong with samples just if their indexes are new and distinct and nothing is wrong
with any of them. -/
lemma sampleIssues_eq_nil_iff {setup : Setup} {before : List Count} {samples : List Sample} :
    sampleIssues setup before samples = [] ↔
      (samples.map Sample.index).Nodup ∧ (∀ x ∈ samples, x.index ∉ before) ∧
        ∀ x ∈ samples, x.issues setup = [] := by
  induction samples generalizing before with
  | nil => simp [sampleIssues]
  | cons x rest ih =>
    rw [sampleIssues, List.append_eq_nil_iff, List.append_eq_nil_iff, List.map_eq_nil_iff, ih,
      List.map_cons, List.nodup_cons, List.forall_mem_cons, List.forall_mem_cons]
    constructor
    · rintro ⟨⟨new, own⟩, distinct, others, fine⟩
      refine ⟨⟨?_, distinct⟩, ⟨?_, ?_⟩, own, fine⟩
      · intro mem
        obtain ⟨y, hy, same⟩ := List.mem_map.1 mem
        exact others y hy (same ▸ List.mem_cons_self)
      · intro mem
        rw [if_pos mem] at new
        cases new
      · exact fun y hy mem => others y hy (List.mem_cons_of_mem _ mem)
    · rintro ⟨⟨first, distinct⟩, ⟨new, others⟩, own, fine⟩
      refine ⟨⟨if_neg new, own⟩, distinct, ?_, fine⟩
      intro y hy mem
      rcases List.mem_cons.1 mem with same | mem
      · exact first (same ▸ List.mem_map_of_mem hy)
      · exact others y hy mem

/-- Nothing is wrong with a submission just if it has the shape, its samples as far as they are
looked at. -/
lemma issues_validate_eq_nil_iff {s : Submission} {p : Point} {complete : Bool} :
    (s.validate p complete).issues = [] ↔
      s.Shaped p complete fun x => (x.considered p.setup).Fills p.setup := by
  rw [validate, List.append_eq_nil_iff, List.append_eq_nil_iff, sampleIssues_eq_nil_iff]
  simp only [Sample.issues_eq_nil_iff, ite_eq_right_iff, List.cons_ne_nil, imp_false, not_not,
    Bool.and_eq_true, Bool.not_eq_true', List.isEmpty_eq_false_iff, decide_eq_true_eq]
  constructor
  · rintro ⟨⟨item, distinct, -, fine⟩, amount⟩
    refine ⟨item, distinct, fine, ?_⟩
    intro all some
    by_contra other
    exact amount ⟨⟨all, some⟩, other⟩
  · rintro ⟨item, distinct, fine, amount⟩
    refine ⟨⟨item, distinct, by simp, fine⟩, ?_⟩
    rintro ⟨⟨all, some⟩, other⟩
    exact other (amount all some)

/-- **The validation accepts the documented shape, but for numbers that are handed in with
judgements.** Nothing is wrong with a submission just if it has its point's shape once the numbers of
judged samples are dropped; and it has that shape itself just if nothing is wrong with it and there
are no such numbers. -/
theorem validate_exact (s : Submission) (p : Point) (complete : Bool) :
    ((s.validate p complete).issues = [] ↔
      s.Shaped p complete fun x => (x.considered p.setup).Fills p.setup) ∧
    (s.Shaped p complete (fun x => x.Fills p.setup) ↔
      (s.validate p complete).issues = [] ∧ ∀ x ∈ s.samples, x.considered p.setup = x) := by
  refine ⟨issues_validate_eq_nil_iff, ?_⟩
  rw [issues_validate_eq_nil_iff]
  constructor
  · rintro ⟨item, distinct, filled, amount⟩
    refine ⟨⟨item, distinct, ?_, amount⟩, ?_⟩
    · exact fun x mem => (Sample.fills_iff.1 (filled x mem)).1
    · exact fun x mem => (Sample.fills_iff.1 (filled x mem)).2
  · rintro ⟨⟨item, distinct, looked, amount⟩, all⟩
    refine ⟨item, distinct, ?_, amount⟩
    exact fun x mem => Sample.fills_iff.2 ⟨looked x mem, all x mem⟩

end Submission

namespace Strip

/-- A point of a strip that is judged by eye. -/
def gloss : Point where
  name := "gloss"
  setup := ⟨none, .qualitative, .single, .manual, none, ⟨1, Nat.one_pos⟩⟩
  declarations := []
  sampleFormulas := []
  strategy := .skipCheck
  setting := ⟨none, none, none⟩
  rule := none

/-- A judgement that comes with a number is accepted, though it has not the shape that its point asks
for. -/
theorem judged_may_carry_number :
    ∃ s : Submission, (s.validate gloss true).issues = [] ∧
      ¬ s.Shaped gloss true fun x => x.Fills gloss.setup := by
  refine ⟨⟨"gloss", .empty, [⟨⟨1, Nat.one_pos⟩, some 1.0, none, some true⟩]⟩, rfl, ?_⟩
  intro shaped
  obtain ⟨-, alone, -⟩ := shaped.samples _ List.mem_cons_self
  cases alone

end Strip

end Inspection
