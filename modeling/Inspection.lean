import Inspection.Main
import Inspection.Product.Placement
import Inspection.Product.Shipped
import Inspection.Request
import Inspection.Schema.Product
import Inspection.Proofs.Batch
import Inspection.Proofs.Batch.Durable
import Inspection.Proofs.Batch.Writing
import Inspection.Proofs.Decimal.Digits
import Inspection.Proofs.Decimal.Nearest
import Inspection.Proofs.Decimal.Order
import Inspection.Proofs.Decimal.Range
import Inspection.Proofs.Decimal.Value
import Inspection.Proofs.Decimal.Written
import Inspection.Proofs.Diagnostics
import Inspection.Proofs.Disk
import Inspection.Proofs.Disk.Places
import Inspection.Proofs.Document
import Inspection.Proofs.Document.Overflow
import Inspection.Proofs.Document.Survival
import Inspection.Proofs.Double.Arithmetic
import Inspection.Proofs.Double.Order
import Inspection.Proofs.Double.Parts
import Inspection.Proofs.Double.Rounding
import Inspection.Proofs.Evaluation.Agreement
import Inspection.Proofs.Evaluation.Attribution
import Inspection.Proofs.Evaluation.Averages
import Inspection.Proofs.Evaluation.Dependencies
import Inspection.Proofs.Evaluation.Errors
import Inspection.Proofs.Evaluation.Faults
import Inspection.Proofs.Evaluation.Formulas
import Inspection.Proofs.Evaluation.Joint
import Inspection.Proofs.Evaluation.Lacking
import Inspection.Proofs.Evaluation.Naming
import Inspection.Proofs.Evaluation.Results
import Inspection.Proofs.Evaluation.Samples
import Inspection.Proofs.Evaluation.Scope
import Inspection.Proofs.Evaluation.Supplying
import Inspection.Proofs.Formula.Choices
import Inspection.Proofs.Formula.Closing
import Inspection.Proofs.Formula.Context
import Inspection.Proofs.Formula.Enclosing
import Inspection.Proofs.Formula.Escaping
import Inspection.Proofs.Formula.Grammar
import Inspection.Proofs.Formula.Halting
import Inspection.Proofs.Formula.Lexing
import Inspection.Proofs.Formula.Locality
import Inspection.Proofs.Formula.Negation
import Inspection.Proofs.Formula.Numerals
import Inspection.Proofs.Formula.Operands
import Inspection.Proofs.Formula.Passing
import Inspection.Proofs.Formula.Places
import Inspection.Proofs.Formula.References
import Inspection.Proofs.Formula.Respelling
import Inspection.Proofs.Formula.RoundTrip
import Inspection.Proofs.Formula.Sound
import Inspection.Proofs.Formula.Writing
import Inspection.Proofs.Json.Documents
import Inspection.Proofs.Json.Integers
import Inspection.Proofs.Json.Scalars
import Inspection.Proofs.Outcome
import Inspection.Proofs.Product.Acyclic
import Inspection.Proofs.Product.Arrangement
import Inspection.Proofs.Product.Circles
import Inspection.Proofs.Product.Dependencies
import Inspection.Proofs.Product.Ordering
import Inspection.Proofs.Product.Placement
import Inspection.Proofs.Product.Readable
import Inspection.Proofs.Product.Soundness
import Inspection.Proofs.Rule
import Inspection.Proofs.Rule.Limits
import Inspection.Proofs.Schema.Covering
import Inspection.Proofs.Schema.Keeping
import Inspection.Proofs.Session.Alike
import Inspection.Proofs.Session.Answers
import Inspection.Proofs.Session.Calls
import Inspection.Proofs.Session.Consistency
import Inspection.Proofs.Session.Sequence
import Inspection.Proofs.Session.Counts
import Inspection.Proofs.Session.Creation
import Inspection.Proofs.Session.Explaining
import Inspection.Proofs.Session.Lifecycle
import Inspection.Proofs.Session.Merging
import Inspection.Proofs.Session.Reachable
import Inspection.Proofs.Session.Preview
import Inspection.Proofs.Session.Progress
import Inspection.Proofs.Session.RawData
import Inspection.Proofs.Session.Relevance
import Inspection.Proofs.Session.Reordering
import Inspection.Proofs.Session.Replacing
import Inspection.Proofs.Session.Saving
import Inspection.Proofs.Session.SavingFirst
import Inspection.Proofs.Session.Submitting
import Inspection.Proofs.Store
import Inspection.Proofs.Store.Faithful
import Inspection.Proofs.Store.Frame
import Inspection.Proofs.Store.Names
import Inspection.Proofs.Store.Reloading
import Inspection.Proofs.Submission
import Inspection.Proofs.Submission.Shape
import Inspection.Proofs.Table
import Inspection.Proofs.Timestamp
