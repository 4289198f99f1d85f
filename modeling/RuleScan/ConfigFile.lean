import RuleScan.Config
import RuleScan.Trace

/-!
# Configuration files

Loading a configuration from a JSON document in a file.
-/

namespace RuleScan

/-- Loads a configuration from a file. -/
def Config.load (path : String) : Action Files Config := do
  let fs ← .get
  let text ← .ofExcept ((fs.readText path).mapError fun e => .config (.unreadable path e))
  let config ← .ofExcept ((Json.decodeText Config.schema.decoder text).mapError fun e =>
    .config (.invalid path e))
  .log .debug ("Config loaded | Path: " ++ path ++ " | Pacing: " ++ config.pace.display
    ++ " | Plugin failure: " ++ config.onPluginFailure.display)
  return config

end RuleScan
