import Sluice.Category.Resource
import Sluice.Server.Lifetime

/-!
# The program

Reads the settings from the environment, checks them, puts the server together and says where it would
listen, or why it cannot be started. Everything is decided by the modules that it uses.
-/

namespace Sluice

/-- The variables of the environment that settings are read from. -/
def environment : IO Server.Variables := do
  let held ← Server.Settings.variableNames.mapM fun name => return (name, ← IO.getEnv name)
  return fun name => (held.lookup name).join

/-- One line for something that is reported. -/
def eventLine (event : Log.Event) : String :=
  " ".intercalate
    (event.level.name :: event.message ::
      event.fields.map fun (name, text) => name ++ "=" ++ text)

/-- Says why the server cannot be started. -/
def refuse (reason : String) : IO UInt32 := do
  IO.eprintln ("Error: " ++ reason)
  return 1

end Sluice

open Sluice in
/-- Checks the settings and says where the server would listen. -/
def main : IO UInt32 := do
  match Server.Settings.load (← environment) with
  | .error fault => refuse fault.message
  | .ok (settings, events) =>
    for event in events do
      IO.println (eventLine event)
    match Category.registry settings.access.policy with
    | .error error => refuse error.message
    | .ok registry =>
      match Server.start settings (.ok registry) Category.source with
      | .refused fault => refuse fault.message
      | .broken => refuse "the routes of the server cannot stand together"
      | .ready _ host => do
        IO.println (eventLine (Server.listeningEvent settings host))
        return 0
