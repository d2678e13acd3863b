import Inspection.Session.Basic
import Inspection.Settings

/-!
# Sites

Where the program runs: its files, the environment, the time, and where codes are drawn from. A
session that is opened at a site works on the site's files, and what it did to them is taken back to
the site.
-/

namespace Inspection

/-- Where the program runs. -/
structure Site where
  disk : Disk
  environment : Variables
  now : Timestamp
  /-- The hexadecimal digits of each drawn code, counted from one. -/
  draw : Nat → String
  /-- How many codes were drawn. -/
  drawn : Nat

/-- How a session works. -/
structure SessionOptions where
  registry : Path
  schema : Option Path
  store : Store
  /-- Whether codes are derived rather than drawn. -/
  derivedCodes : Bool
  /-- Stands for the average of an item without data. -/
  fallback : Option Float

open Reader in
/-- Completes the options of a session by those that members from outside set. -/
def SessionOptions.ofMembers (registry : Path) (schema : Option Path) (store : Store)
    (ms : List (String × Json)) : Outcome SessionOptions :=
  (SessionOptions.mk registry schema store
    <$> optional "deterministic_ids" boolean false ms
    <*> absentable "legacy_average_fallback" number ms).outcome

namespace Site

/-- Codes of a session; those that are derived are counted anew. -/
def codes (s : Site) (derived : Bool) : Codes :=
  ⟨derived, 0, s.draw, s.drawn⟩

/-- Opens a session. -/
def openSession (s : Site) (o : SessionOptions) : Outcome Session := do
  let registry ← Registry.openAt s.disk o.registry o.schema
  return ⟨s.disk, registry, o.store, s.codes o.derivedCodes, s.now, o.fallback⟩

/-- The site after a session. -/
def after (s : Site) (session : Session) : Site :=
  { s with disk := session.disk, drawn := session.codes.drawn }

end Site

end Inspection
