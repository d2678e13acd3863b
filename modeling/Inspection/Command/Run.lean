import Inspection.Command.Basic
import Inspection.Command.Console
import Inspection.Disk.Records
import Inspection.Session.Preview
import Inspection.Session.Submitting

/-!
# Running commands

Each command reads the settings, works in a session on the user's products and batches, prints what
came of it, and ends with an exit code.
-/

namespace Inspection

namespace Run

/-- The schema of products that a working directory may have. -/
def schemaPath : Path := .ofText "schemas/product_spec.schema.json"

/-- The schema of products, if the working directory has one. -/
def localSchema (d : Disk) : Option Path :=
  if (d.entry? schemaPath).isSome then some schemaPath else none

/-- Whether a path leads to something. -/
def pathExists (p : Path) : Run Bool := do
  ofOutcome ((← site).disk.pathExists p)

/-- Opens a session on a user's products and batches. -/
def openSession (p : Places) : Run Session := do
  let s ← site
  let registry ← ofOutcome (Settings.findRegistry s.disk s.environment p.registry)
  if !(← pathExists registry) then stop ("Product registry not found: " ++ registry.text)
  let store ← ofOutcome (Settings.findStore s.disk s.environment p.store)
  let settings ← ofOutcome (Settings.load s.disk s.environment.settingsPath)
  ofOutcome
    (s.openSession ⟨registry, localSchema s.disk, .directory store, false, settings.fallback⟩)

/-- Takes back what a session did. -/
def close (session : Session) : Run Unit := do
  setSite ((← site).after session)

/-- The submissions in a file: the lines of a record file, a list, the list in the member `items` of
a record, or a record by itself. -/
def readSubmissions (p : Path) : Run (List Json) := do
  let d := (← site).disk
  if !(← pathExists p) then stop ("Input file not found: " ++ p.text)
  if p.suffix = ".jsonl" then reporting Fault.isValue (d.readRecords p)
  else
    let data ← reporting Fault.isValue (d.readDocument p)
    let items := match data with
      | .record ms => (ms.lookup "items").getD (.list [data])
      | data => data
    match items with
    | .list items => return items
    | _ => stop ("Expected a list of submissions in " ++ p.text)

/-- Says where something was written. -/
def printWritten (what : String) (p : Path) : Run Unit :=
  print ("  Written " ++ what ++ "to " ++ p.text)

/-- Writes a document to a file, if one is named. -/
def writeDocument (p : Option Path) (j : Json) : Run Unit := do
  match p with
  | none => return
  | some p =>
    changeDisk ((← site).disk.write p j.document)
    printWritten "" p

/-- A status in words. -/
def statusText : Option Bool → String
  | none => "[yellow]pending[/yellow]"
  | some true => "[green]OK[/green]"
  | some false => "[red]NG[/red]"

/-- A number as it is shown to people. -/
def briefText (x : Float) : String :=
  NumberFormat.brief.write x

/-- The cells of an item of a completed batch. -/
def itemCells (i : ItemSummary) : List String :=
  [i.item, Keyword.label i.strategy, (i.finalValue.map briefText).getD "",
    String.intercalate " " (i.samples.map SampleSummary.label), statusText i.status]

/-- Prints a completed batch. -/
def printCompletion (c : Completion) : Run Unit := do
  printTable ("Batch " ++ c.batch.number)
    (["Item", "Type", "Final value", "Samples", "Result"] :: c.summary.items.map itemCells)
  let colour := if c.verdict = .ok then "green" else "red"
  print ("[bold]Overall:[/bold] [" ++ colour ++ "]" ++ c.verdict.label ++ "[/" ++ colour ++ "]  (" ++
    toString c.summary.passed ++ "/" ++ toString c.summary.total ++ " passed, " ++
    NumberFormat.plain.write c.summary.passRate ++ "%)")

/-- Prints what kept an item open. -/
def printDiagnostic (item : String) (x : Diagnostic) : Run Unit :=
  print ("  [yellow]" ++ item ++ "[/yellow] " ++ x.code.label ++ ": " ++ Markup.escape x.message)

/-- Prints saved items. -/
def printProgress (p : Progress) : Run Unit := do
  print ("[green]Saved[/green] " ++ toString p.saved ++ " items (" ++ toString p.total ++
    " stored, " ++ Decimal.wholeText p.batch.progress ++ "% evaluated)")
  match p.report with
  | none => return
  | some report =>
    for i in report.items do
      for x in i.errors ++ i.warnings do
        printDiagnostic i.item x

/-- Prints a batch. -/
def printBatch (b : Batch) : Run Unit := do
  print ("[bold]" ++ b.id ++ "[/bold] " ++ b.number ++ " (" ++ b.product ++ ")")
  print ("  Status: " ++ Keyword.label b.status)
  print ("  Progress: " ++ Decimal.wholeText b.progress ++ "%")
  if b.overall.isSome then print ("  Overall: " ++ statusText b.overall)
  for r in b.results do
    print ("  " ++ r.item ++ ": " ++ statusText r.status)

end Run

namespace Command

open Run

/-- Copies the products below a directory to the user's own. -/
def runInit (source : Option Path) (force : Bool) : Run Unit := do
  let s ← site
  let v := s.environment
  let source := (source.getD s.disk.workingDirectory).child "product-registry"
  if !(← pathExists source) then
    print ("[red]Error:[/red] product-registry not found at " ++ source.text)
    print "Use --from to specify source directory"
    throw (.exit 1)
  if (← pathExists v.ownRegistry) && !force then
    print ("[yellow]Warning:[/yellow] Registry already exists at " ++ v.ownRegistry.text)
    print "Use --force to overwrite"
    throw (.exit 1)
  print ("[bold]Initializing qcgate at " ++ v.home.text ++ "[/bold]")
  changeDisk (s.disk.ensureDirectory v.home)
  changeDisk ((← site).disk.ensureDirectory v.ownStore)
  changeDisk ((← site).disk.removeTree v.ownRegistry)
  changeDisk ((← site).disk.copyTree source v.ownRegistry)
  let count := ((← site).disk.documents (v.ownRegistry.child "products")).length
  print ("  [green]✓[/green] " ++ toString count ++ " products synced")
  let settings : Settings :=
    { Settings.default with
      registryPath := some v.ownRegistry.text
      storePath := some v.ownStore.text }
  changeDisk (settings.save (← site).disk v.settingsPath)
  print ("  [green]✓[/green] Created config at " ++ v.settingsPath.text)
  print "\n[green]✓ Initialized qcgate[/green]"

/-- Creates a batch. -/
def runCreateBatch (product : String) (request : BatchRequest) (places : Places) : Run Unit := do
  let (created, session) := (← openSession places).createBatch (.text product) request
  close session
  let b ← reporting Fault.isReported created
  print ("[green]Created batch[/green] " ++ b.id ++ " (" ++ b.number ++ ")")

/-- Lists the items that an item needs. -/
def runCheckDependencies (batch item : String) (submitted : List String) (places : Places) :
    Run Unit := do
  let session ← openSession places
  let missing ← reporting Fault.isReported
    (session.missingDependencies batch (.text item) (submitted.map .text))
  if missing.isEmpty then print ("[green]✓[/green] " ++ item ++ " has no missing dependencies")
  else
    print ("[yellow]Missing dependencies:[/yellow] " ++ joined ", " missing)
    throw (.exit 1)

/-- Evaluates the first submission of a file without storing it. -/
def runEvaluate (batch : String) (input : Path) (output : Option Path) (places : Places) :
    Run Unit := do
  match ← readSubmissions input with
  | [] => stop "No submissions in input"
  | submission :: others =>
    let session ← openSession places
    let r ← reporting Fault.isReported (session.evaluateItem batch submission others)
    print (r.item ++ ": " ++ statusText r.status)
    match r.finalValue with
    | some x => print ("  Final value: " ++ briefText x)
    | none => pure ()
    writeDocument output r.json

/-- Saves the submissions of a file. -/
def runSave (batch : String) (input : Path) (diagnostics : Option Path) (places : Places) :
    Run Unit := do
  let submissions ← readSubmissions input
  let session ← openSession places
  let (progress, session) ← reporting Fault.isReported (session.saveProgress batch submissions)
  close session
  printProgress progress
  match progress.report with
  | some report => writeDocument diagnostics report.json
  | none => return

/-- Completes a batch with the submissions of a file. -/
def runSubmit (batch : String) (input : Option Path) (measuredBy : Option String)
    (output : Option Path) (places : Places) : Run Unit := do
  let submissions ← match input with
    | some input => readSubmissions input
    | none => pure []
  let session ← openSession places
  let (completion, session) ← reporting Fault.isReported
    (session.submitBatch batch submissions measuredBy)
  close session
  printCompletion completion
  match output.filter fun p => p.suffix = ".jsonl" with
  | some p =>
    let records := completion.batch.results.map Result.json
    changeDisk ((← site).disk.writeRecords p records)
    printWritten (toString records.length ++ " results ") p
  | none => writeDocument output completion.json

/-- Shows a stored batch. -/
def runDisplay (batch : String) (asDocument : Bool) (places : Places) : Run Unit := do
  let s ← site
  let store ← ofOutcome (Settings.findStore s.disk s.environment places.store)
  let b ← reporting (fun | .batchNotFound .. => true | _ => false)
    ((Store.directory store).load s.disk batch)
  if asDocument then emit [.document b.json] else printBatch b

/-- The product of a file, checked. -/
def readProduct (d : Disk) (product : Path) (schema : Option Schema) : Outcome Product := do
  Product.load schema (← d.readDocument product)

/-- Checks a product. -/
def runValidate (product : Path) (schema : Option Path) : Run Unit := do
  let d := (← site).disk
  if !(← pathExists product) then stop ("Spec file not found: " ++ product.text)
  let schema ← match schema <|> localSchema d with
    | some p => ofOutcome (Registry.readSchema d p)
    | none => pure none
  match readProduct d product schema with
  | .ok p =>
    print ("[green]Valid:[/green] " ++ product.text ++ " (" ++ toString p.points.length ++
      " measurement points)")
  | .error fault =>
    if fault.isReported || fault.isValue then
      print ("[red]Invalid:[/red] " ++ Markup.escape fault.message)
      throw (.exit 1)
    else throw (.fault fault)

/-- Runs a command. -/
def run : Command → Run Unit
  | init source force => runInit source force
  | createBatch product request places => runCreateBatch product request places
  | checkDependencies batch item submitted places =>
    runCheckDependencies batch item submitted places
  | evaluate batch input output places => runEvaluate batch input output places
  | save batch input diagnostics places => runSave batch input diagnostics places
  | submit batch input measuredBy output places => runSubmit batch input measuredBy output places
  | display batch asDocument places => runDisplay batch asDocument places
  | validate product schema => runValidate product schema

/-- The exit code of a command line that asks for nothing that there is. -/
def misuseCode : Nat := 2

/-- Tells how the program is called. -/
def printUsage : Run Unit :=
  print (Markup.escape usage)

/-- Tells how the program is called, since it was called otherwise. -/
def refuseWords : Run Unit := do
  printUsage
  throw (.exit misuseCode)

/-- Runs a command line. The settings are read before the words after the name of a command are
looked at. -/
def runWords (words : List String) : Run Unit :=
  match call words with
  | .misuse => refuseWords
  | .help => printUsage
  | .version => print "qcgate version 0.1.0"
  | .command name words => do
    let s ← site
    let _ ← ofOutcome (Settings.load s.disk s.environment.settingsPath)
    match wish name words with
    | .misuse => refuseWords
    | .help => printUsage
    | .command c => c.run

/-- What a command line came to. -/
structure Finished where
  ending : Ending
  printed : List Printed
  site : Site

/-- Runs a command line at a site. -/
def runAt (words : List String) (s : Site) : Finished :=
  match (runWords words).run ⟨s, []⟩ with
  | (.ok _, c) => ⟨.exit 0, c.printed, c.site⟩
  | (.error ending, c) => ⟨ending, c.printed, c.site⟩

/-- The exit code of a command line. -/
def Finished.exitCode (r : Finished) : Nat :=
  match r.ending with
  | .exit code => code
  | .fault _ | .unopenedStyle => 1

end Command

end Inspection
