import SensorRouter.CommandLine.Arguments
import SensorRouter.Outbound.Publisher
import SensorRouter.Repository.Registry
import SensorRouter.Settings.Wire

/-!
What the subcommands do with the files that they are given.
-/

namespace SensorRouter.CommandLine

/-- The contents of the files that there are. -/
abbrev Files := String → Option ByteArray

/-- Why a subcommand fails. -/
inductive Failure where
  | settingsFile (e : SettingsFileError)
  | settings (e : SettingsError)
  | seed (e : SeedError)
  /-- Some number among the settings is too large to be written. -/
  | unprintable
  | load
  | bind (address : SocketAddress)
  deriving DecidableEq, Repr

def Failure.message : Failure → String
  | .settingsFile e => e.message
  | .settings e => e.message
  | .seed e => e.message
  | .unprintable => "out-of-range value"
  | .load => "Failed to load the routing cache"
  | .bind address => "Failed to bind " ++ address.text

/-- What the router runs with. -/
structure Plan where
  settings : Settings
  address : SocketAddress
  registry : Registry
  publisher : PublisherChoice

/-- The settings of a file, if they can be run with. -/
def checkedSettings (files : Files) (path : String) : Except Failure Settings := do
  let settings ← (Settings.ofFile path (files path)).mapError .settingsFile
  settings.validate.mapError .settings
  return settings

/-- What a check of a settings file prints, and how it fails. -/
def checkSettings (files : Files) (path : String) : String × Except Failure Unit :=
  match checkedSettings files path with
  | .error e => ("", .error e)
  | .ok settings =>
    let heading := "==> " ++ path ++ " is valid\n\n"
    match settings.toToml? with
    | none => (heading, .error .unprintable)
    | some text => (heading ++ text, .ok ())

/-- Everything that is needed before the router is started: settings from a file or the defaults,
with another listen address if one is given, and the registry of a seed file or an empty one. -/
def prepare (files : Files) (settings listen seed : Option String) : Except Failure Plan := do
  let fromFile ← match settings with
    | some path => (Settings.ofFile path (files path)).mapError .settingsFile
    | none => .ok {}
  let settings := match listen with
    | some listen => { fromFile with server := { listen } }
    | none => fromFile
  settings.validate.mapError .settings
  let address ← settings.listenAddress.mapError .settings
  let registry ← match seed with
    | some path => (Registry.ofFile path (files path)).mapError .seed
    | none => .ok .empty
  let publisher ← settings.publisher.choose.mapError .settings
  return { settings, address, registry, publisher }

end SensorRouter.CommandLine
