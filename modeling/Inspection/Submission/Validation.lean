import Inspection.Product.Basic
import Inspection.Submission.Basic

/-!
# Validation of submissions

Whether a submission has the shape that its point asks for, before anything is evaluated. Every
issue is reported; inputs that no manual variable takes are only worth a note.
-/

namespace Inspection

/-- What is wrong with a sample. -/
inductive SampleIssue
  | repeatedIndex
  | judgementMissing
  | judgementGiven
  | singleMissing
  | pairGiven
  | pairMissing
  | singleGiven
deriving Repr, DecidableEq

/-- The issue in words. -/
def SampleIssue.message : SampleIssue → String
  | repeatedIndex => "duplicate sample_index"
  | judgementMissing => "qualitative_value is required"
  | judgementGiven => "qualitative_value is not allowed for QUANTITATIVE nature"
  | singleMissing => "single_value is required"
  | pairGiven => "before_after_value is not allowed for SINGLE setup"
  | pairMissing => "before_after_value is required"
  | singleGiven => "single_value is not allowed for BEFORE_AFTER setup"

/-- What is wrong with a submission. -/
inductive SubmissionIssue
  | otherItem (given expected : String)
  | sample (index : Count) (issue : SampleIssue)
  | sampleAmount (expected : Count) (given : Nat)
  /-- An issue that is given in words. -/
  | stated (words : String)
deriving DecidableEq

/-- The issue in words. -/
def SubmissionIssue.message : SubmissionIssue → String
  | otherItem given expected => "submission is for '" ++ given ++ "', not '" ++ expected ++ "'"
  | sample index issue => "sample " ++ toString index.val ++ ": " ++ issue.message
  | sampleAmount expected given =>
    "expected " ++ toString expected.val ++ " samples, got " ++ toString given
  | stated words => words

/-- What is noted about an input. -/
inductive InputNote
  | undeclared (name : String)
  | ignored (name : String) (kind : VariableKind)
  /-- A note that is given in words. -/
  | stated (words : String)
deriving DecidableEq

/-- The note in words. -/
def InputNote.message : InputNote → String
  | undeclared name => "variable '" ++ name ++ "' is not declared"
  | ignored name kind => "variable '" ++ name ++ "' is " ++ Keyword.label kind ++ "; input ignored"
  | stated words => words

/-- The outcome of a validation. -/
structure Validation where
  item : String
  sampleCount : Int
  expected : Int
  issues : List SubmissionIssue
  notes : List InputNote
deriving DecidableEq

namespace Sample

/-- What is wrong with what was taken down of a sample. -/
def issues (s : Sample) (setup : Setup) : List SampleIssue :=
  match setup.nature, setup.shape with
  | .qualitative, _ => if s.judgement.isNone then [.judgementMissing] else []
  | .quantitative, shape =>
    (if s.judgement.isSome then [.judgementGiven] else []) ++
    match shape with
    | .single =>
      (if s.single.isNone then [.singleMissing] else []) ++
        (if s.pair.isSome then [.pairGiven] else [])
    | .beforeAfter =>
      (if s.pair.isNone then [.pairMissing] else []) ++
        (if s.single.isSome then [.singleGiven] else [])

end Sample

namespace Submission

/-- What is wrong with samples, given the indexes of those before them. -/
def sampleIssues (setup : Setup) (before : List Count) : List Sample → List SubmissionIssue
  | [] => []
  | s :: rest =>
    (if s.index ∈ before then [.sample s.index .repeatedIndex] else []) ++
      (s.issues setup).map (.sample s.index) ++
      sampleIssues setup (s.index :: before) rest

/-- What is noted about an input of a name. -/
def inputNote? (point : Point) (name : String) : Option InputNote :=
  match point.findVariable? name with
  | none => some (.undeclared name)
  | some v => if v.kind = .manual then none else some (.ignored name v.kind)

/-- Validates a submission by its point; a complete one has as many samples as the point asks for,
or none. -/
def validate (s : Submission) (point : Point) (complete : Bool) : Validation where
  item := point.name
  sampleCount := s.samples.length
  expected := point.setup.sampleAmount.val
  issues :=
    (if s.item ≠ point.name then [.otherItem s.item point.name] else []) ++
      sampleIssues point.setup [] s.samples ++
      (if complete && !s.samples.isEmpty && s.samples.length ≠ point.setup.sampleAmount.val then
        [.sampleAmount point.setup.sampleAmount s.samples.length]
      else [])
  notes := s.inputs.keys.filterMap (inputNote? point)

end Submission

namespace Validation

/-- Whether nothing is wrong. -/
def isValid (v : Validation) : Bool :=
  v.issues.isEmpty

open Reader in
/-- Reads the outcome of a validation. -/
def read : Reader Validation := model "ValidationResult" fun ms =>
  (fun item (_ : Bool) => Validation.mk item) <$> required "item_id" text ms
    <*> required "valid" boolean ms
    <*> required "sample_count" integer ms
    <*> required "expected_samples" integer ms
    <*> List.map .stated <$> required "errors" (list text) ms
    <*> List.map .stated <$> required "warnings" (list text) ms

/-- The outcome of a validation as a document. -/
def json (v : Validation) : Json :=
  .record [("item_id", .text v.item), ("valid", .bool v.isValid),
    ("sample_count", .int v.sampleCount), ("expected_samples", .int v.expected),
    ("errors", .texts (v.issues.map SubmissionIssue.message)),
    ("warnings", .texts (v.notes.map InputNote.message))]

end Validation

end Inspection
