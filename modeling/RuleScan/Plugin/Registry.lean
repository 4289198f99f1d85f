import RuleScan.Plugin.Basic

/-!
# The plugin registry

The plugins in use, in the order in which they were registered. Plugins of one name may stand side
by side, but that is logged.
-/

namespace RuleScan

/-- The plugins in use. -/
structure Registry where
  plugins : List Plugin := []

namespace Registry

/-- The number of plugins. -/
def size (r : Registry) : Nat := r.plugins.length

/-- The names of the plugins. -/
def names (r : Registry) : List String := r.plugins.map Plugin.qualifiedName

/-- How a registry is shown. -/
def display (r : Registry) : String :=
  "PluginRegistry \x7b plugins: [" ++ ", ".intercalate (r.names.map Text.quoted) ++ "] \x7d"

/-- Logs a name that is already taken. -/
def warnDuplicate (name : String) : Event :=
  .log .warn ("Duplicate plugin registered | Plugin: " ++ name)

/-- Adds a plugin at the end. -/
def register (p : Plugin) : Action Registry Unit := fun r =>
  let name := p.qualifiedName
  let plugins := r.plugins ++ [p]
  ⟨.ok (), { plugins },
    (if r.names.contains name then [warnDuplicate name] else [])
      ++ [.log .debug ("Plugin registered | Plugin: " ++ name ++ " | Total: "
        ++ decimal plugins.length)]⟩

/-- A warning for each name that occurs earlier in the list or among those seen. -/
def duplicateWarnings (seen : List String) : List String → List Event
  | [] => []
  | name :: rest =>
    (if seen.contains name then [warnDuplicate name] else [])
      ++ duplicateWarnings (name :: seen) rest

/-- Puts a list of plugins in place of all others. -/
def registerAll (plugins : List Plugin) : Action Registry Unit := fun _ =>
  ⟨.ok (), { plugins },
    duplicateWarnings [] (plugins.map Plugin.qualifiedName)
      ++ [.log .debug ("Plugin set replaced | Total: " ++ decimal plugins.length)]⟩

/-- Removes all plugins. -/
def clear : Action Registry Unit := fun _ => ⟨.ok (), {}, [.log .debug "Plugin set cleared"]⟩

/-- Asks one plugin. -/
def ask (data : ByteArray) (p : Plugin) : Action Registry PluginScan := do
  .call (.plugin p.qualifiedName)
  return p.contribution data

/-- Asks some plugins in order, whatever becomes of each of them. -/
def askEach (data : ByteArray) : List Plugin → Action Registry PluginScan
  | [] => .pure {}
  | p :: rest => do
    let first ← ask data p
    let others ← askEach data rest
    return first.append others

/-- Asks all plugins in order. -/
def scanAll (data : ByteArray) : Action Registry PluginScan := do
  askEach data (← .get).plugins

end Registry

end RuleScan
