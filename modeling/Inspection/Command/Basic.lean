import Inspection.Batch.Creation
import Inspection.Command.Arguments
import Inspection.Disk.Path
import Inspection.Text.Digit

/-!
# Commands

What the command line can be asked for, and how its words ask for it.
-/

namespace Inspection

/-- The names of the commands. -/
inductive CommandName
  | init
  | createBatch
  | checkDependencies
  | evaluate
  | save
  | submit
  | display
  | validate
deriving Repr, DecidableEq

instance : Keyword CommandName where
  all := [.init, .createBatch, .checkDependencies, .evaluate, .save, .submit, .display, .validate]
  label
    | .init => "init"
    | .createBatch => "create-batch"
    | .checkDependencies => "check-deps"
    | .evaluate => "evaluate"
    | .save => "save"
    | .submit => "submit"
    | .display => "show"
    | .validate => "validate"

/-- Where a command finds products and batches, as far as it is told. -/
structure Places where
  registry : Option Path
  store : Option Path
deriving Repr, DecidableEq

/-- A command with what it needs. -/
inductive Command
  /-- Copies the products below a directory to the user's own. -/
  | init (source : Option Path) (force : Bool)
  | createBatch (product : String) (request : BatchRequest) (places : Places)
  | checkDependencies (batch item : String) (submitted : List String) (places : Places)
  | evaluate (batch : String) (input : Path) (output : Option Path) (places : Places)
  | save (batch : String) (input : Path) (diagnostics : Option Path) (places : Places)
  | submit (batch : String) (input : Option Path) (measuredBy : Option String)
    (output : Option Path) (places : Places)
  | display (batch : String) (asDocument : Bool) (places : Places)
  | validate (product : Path) (schema : Option Path)

namespace Command

/-- The option that asks for help. -/
def helpRule : OptionRule := ⟨"help", none, false⟩

/-- The options that tell where products and batches are. -/
def placeRules : List OptionRule :=
  [⟨"product-registry", none, true⟩, ⟨"batch-store", none, true⟩]

/-- The options of a command besides the one for help. -/
def rulesOf : CommandName → List OptionRule
  | .init => [⟨"from", 'f', true⟩, ⟨"force", none, false⟩]
  | .createBatch =>
    [⟨"batch-number", 'n', true⟩, ⟨"sample-count", none, true⟩, ⟨"by", none, true⟩,
      ⟨"notes", none, true⟩] ++ placeRules
  | .checkDependencies => ⟨"with", none, true⟩ :: placeRules
  | .evaluate => [⟨"in", 'i', true⟩, ⟨"out", 'o', true⟩] ++ placeRules
  | .save => [⟨"in", 'i', true⟩, ⟨"diagnostics", 'd', true⟩] ++ placeRules
  | .submit => [⟨"in", 'i', true⟩, ⟨"by", none, true⟩, ⟨"out", 'o', true⟩] ++ placeRules
  | .display => [⟨"json", none, false⟩, ⟨"batch-store", none, true⟩]
  | .validate => [⟨"schema", 's', true⟩]

/-- The path that is the value of an option. -/
def pathOf (a : Arguments) (name : String) : Option Path :=
  (a.value? name).map Path.ofText

/-- The text that is the value of an option, or null. -/
def textOf (a : Arguments) (name : String) : Json :=
  .ofText? (a.value? name)

/-- The integer that is the value of an option, or null; there is no answer if the value is no
integer. -/
def integerOf (a : Arguments) (name : String) : Option Json :=
  match a.value? name with
  | none => some .null
  | some s => (Decimal.wholeOfText? (Text.asciiDigits s)).map Json.int

/-- The places that are told. -/
def placesOf (a : Arguments) : Places :=
  ⟨pathOf a "product-registry", pathOf a "batch-store"⟩

/-- The command of a name, if the arguments are those that it takes. -/
def ofArguments (name : CommandName) (a : Arguments) : Option Command :=
  match name, a.words with
  | .init, [] => some (.init (pathOf a "from") (a.has "force"))
  | .createBatch, [product] => do
    let count ← integerOf a "sample-count"
    return .createBatch product
      ⟨textOf a "batch-number", count, textOf a "by", textOf a "notes"⟩ (placesOf a)
  | .checkDependencies, [batch, item] =>
    some (.checkDependencies batch item (a.values "with") (placesOf a))
  | .evaluate, [batch] => do
    return .evaluate batch (← pathOf a "in") (pathOf a "out") (placesOf a)
  | .save, [batch] => do
    return .save batch (← pathOf a "in") (pathOf a "diagnostics") (placesOf a)
  | .submit, [batch] =>
    some (.submit batch (pathOf a "in") (a.value? "by") (pathOf a "out") (placesOf a))
  | .display, [batch] => some (.display batch (a.has "json") (placesOf a))
  | .validate, [product] => some (.validate (.ofText product) (pathOf a "schema"))
  | _, _ => none

/-- What the words after the name of a command ask for. -/
inductive Wish
  | misuse
  | help
  | command (c : Command)

/-- Reads the words after the name of a command. -/
def wish (name : CommandName) (words : List String) : Wish :=
  match readWords (helpRule :: rulesOf name) true words with
  | none => .misuse
  | some a =>
    if a.has "help" then .help
    else
      match ofArguments name a with
      | some c => .command c
      | none => .misuse

/-- What the words of a whole command line ask for, before those after the name of a command are
looked at. -/
inductive Call
  | misuse
  | help
  | version
  | command (name : CommandName) (words : List String)
deriving Repr, DecidableEq

/-- How the program is called. -/
def usage : String :=
  "Usage: qcgate [--help] [--version] [--log-format FORMAT] [--log-level LEVEL] COMMAND ...\n" ++
    "Commands: " ++
    String.intercalate ", " ((Keyword.all (α := CommandName)).map Keyword.label)

/-- The options before the name of a command. -/
def mainRules : List OptionRule :=
  [helpRule, ⟨"version", 'v', false⟩, ⟨"log-format", none, true⟩, ⟨"log-level", none, true⟩]

/-- What the options before the name of a command ask for by themselves. Of help and version, what
is asked for first is given. -/
def request? (a : Arguments) : Option Call :=
  (a.options.find? fun g => g.name = "help" || g.name = "version").map fun g =>
    if g.name = "help" then .help else .version

/-- Reads the words of a command line. Words that stand where no command is named may still ask for
help or the version. -/
def call (words : List String) : Call :=
  match readWords mainRules false words with
  | none => .misuse
  | some a =>
    (request? a).getD <|
      match a.words with
      | [] => .misuse
      | word :: rest =>
        match Keyword.all.find? fun n : CommandName => Keyword.label n = word with
        | some name => .command name rest
        | none => ((readWords mainRules false a.words).bind request?).getD .misuse

end Command

end Inspection
