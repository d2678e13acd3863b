import Inspection.Disk.Basic
import Inspection.Document.Writing
import Inspection.Yaml.Reader
import Inspection.Yaml.Writer

/-!
# Settings

What a user sets once for all runs: where products and batches are, how a run reports, and what
stands for the average of an item without data. Paths named in a call come first, then those of the
environment, then the settings.
-/

namespace Inspection

/-- How log lines look. -/
inductive LogFormat
  | console
  | json
deriving Repr, DecidableEq

instance : Keyword LogFormat where
  all := [.console, .json]
  label
    | .console => "console"
    | .json => "json"

/-- The settings of a user. -/
structure Settings where
  registryPath : Option String
  storePath : Option String
  logFormat : LogFormat
  logLevel : String
  fallback : Option Float
deriving DecidableEq

/-- The variables of the environment. -/
abbrev Variables := Table String

namespace Variables

/-- The value of a variable that is set and not empty. -/
def value? (v : Variables) (name : String) : Option String :=
  (v.find? name).filter (· ≠ "")

/-- The directory with the user's settings. -/
def home (v : Variables) : Path :=
  match v.value? "QCGATE_HOME" with
  | some p => .ofText p
  | none => (Path.ofText ((v.value? "HOME").getD "/")).child ".config/qcgate"

/-- The file with the settings. -/
def settingsPath (v : Variables) : Path :=
  v.home.child "config.yaml"

/-- Where the user's own copies of products are. -/
def ownRegistry (v : Variables) : Path :=
  v.home.child "product-registry"

/-- Where batches are unless another place is set. -/
def ownStore (v : Variables) : Path :=
  v.home.child "batches"

end Variables

namespace Settings

open Reader

/-- The settings of a user who set nothing. -/
def default : Settings := ⟨none, none, .console, "WARNING", none⟩

/-- Reads settings. -/
def read : Reader Settings := model "GlobalConfig" fun ms =>
  Settings.mk <$> absentable "default_product_registry_path" text ms
    <*> absentable "default_batch_store_path" text ms
    <*> optional "log_format" keyword .console ms
    <*> optional "log_level" text "WARNING" ms
    <*> absentable "legacy_average_fallback" number ms

/-- The members of settings as a document. -/
def members (s : Settings) : List (String × Json) :=
  [("default_product_registry_path", .ofText? s.registryPath),
    ("default_batch_store_path", .ofText? s.storePath), ("log_format", Keyword.json s.logFormat),
    ("log_level", .text s.logLevel), ("legacy_average_fallback", .ofFloat? s.fallback)]

/-- Settings as a document. -/
def json (s : Settings) : Json :=
  .record s.members

/-- The settings of a file; where there is none, nothing is set. -/
def load (d : Disk) (path : Path) : Outcome Settings := do
  if ← d.pathExists path then
    match ← Outcome.of .ofSettings (Yaml.read (← d.read path)) with
    | .record ms => (read (.record ms)).outcome
    | j => if j.isPresent then .error (.value (.settingsNotRecord path.text)) else return default
  else return default

/-- Whether a member is set. -/
def isSet : Json → Bool
  | .null => false
  | _ => true

/-- The text of a file with settings; what is not set is left out. -/
def text (s : Settings) : String :=
  Yaml.write (s.members.filter fun m => isSet m.2)

/-- Writes a file with settings. -/
def save (s : Settings) (d : Disk) (path : Path) : Outcome Disk :=
  d.put path s.text

/-- The path of products: as named, or else of the environment, of the settings, or in the working
directory. -/
def findRegistry (d : Disk) (v : Variables) (named : Option Path) : Outcome Path := do
  match named, v.value? "QCGATE_PRODUCT_REGISTRY" with
  | some p, _ => return p
  | none, some p => return .ofText p
  | none, none =>
    match (← load d v.settingsPath).registryPath.filter (· ≠ "") with
    | some p => return .ofText p
    | none => return .ofText "product-registry"

/-- The path of batches: as named, or else of the environment, of the settings, or the user's
own. -/
def findStore (d : Disk) (v : Variables) (named : Option Path) : Outcome Path := do
  match named, v.value? "QCGATE_BATCH_STORE" with
  | some p, _ => return p
  | none, some p => return .ofText p
  | none, none =>
    match (← load d v.settingsPath).storePath.filter (· ≠ "") with
    | some p => return .ofText p
    | none => return v.ownStore

end Settings

end Inspection
