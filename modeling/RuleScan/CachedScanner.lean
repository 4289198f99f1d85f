import RuleScan.Rules.Engine
import RuleScan.Scanner

/-!
# Scanners and caches

The rules of a scanner can be saved in a cache file, and a scanner can be made from such a file.
What is saved comes from the session, so that it must be built; only then are the files touched.
-/

namespace RuleScan.Scanner

variable {κ β π C R : Type}

/-- Saves the rules of a scanner in a cache file. -/
def saveCache (E : Engine κ β) (K : Cache.Codec) (path : String) :
    Action (Files × Scanner κ β π) Unit := do
  let bytes ← .zoom Prod.snd (fun both s => (both.1, s)) (onSession (Session.exportRules E))
  .zoom Prod.fst (fun both fs => (fs, both.2)) (K.save path bytes)

/-- A scanner with the rules in a cache file, set up as a configuration says. -/
def ofCache (T : Rules.Toolchain C R) (K : Cache.Codec) (c : Config) (path : String) :
    Action Files (Scanner (Rules.Collector C) (Rules.Ready R) Pacer) := do
  let rules ← T.restoreFrom K c.timeout path
  return .ofSession c (.ofPace c.pace) (.ofBackend rules)

end RuleScan.Scanner
