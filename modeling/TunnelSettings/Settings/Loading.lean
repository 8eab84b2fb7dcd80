import TunnelSettings.Session
import TunnelSettings.Settings.Defaults
import TunnelSettings.Settings.Document
import TunnelSettings.Settings.Override

/-!
Settings and server data from files, and settings into files. The journal tells what was read and how
layers were put together.
-/
namespace TunnelSettings

/-- The names under which the parts of the program log. -/
structure Part where
  name : String

namespace Part

def loader : Part := ⟨"vpnsettings.config.loader"⟩
def servers : Part := ⟨"vpnsettings.config.storage"⟩
def settings : Part := ⟨"vpnsettings.config.models.settings"⟩
def commandLine : Part := ⟨"vpnsettings.__main__"⟩

def note (p : Part) (level : Level) (message : String) : Task Unit := Task.note p.name level message

end Part

/-- The untyped data in a file. -/
def readDocument (p : Path) : Task Value := do
  let files := (← get).files
  let text ← files.readText p
  Document.parse files.wording text p

/-- The mapping in a settings file. Sections with unknown names are mentioned in the journal. A `.env` file is loaded
when this begins; what it adds to the environment is among the `Secrets`. -/
def readSections (p : Path) : Task Section := do
  match ← readDocument p with
  | .map es =>
    let unknown ← Document.unknownSections es
    if !unknown.isEmpty then
      Part.loader.note .warning ("Ignoring unknown settings sections: " ++ Complaint.commaList unknown)
    return es
  | v => throw (.rootNotMapping v.shortKind)

/-- The settings that a file gives, and the secrets that the environment adds. -/
def readFragment (p : Path) (env : Secrets) : Task Settings := do
  let es ← readSections p
  Settings.fragment (.map es) env

/-- The server data in a file; `shown` is how a message names the file. -/
def readServers (p : Path) (shown : String) : Task Servers := do
  match ← readDocument p with
  | .map es =>
    Part.servers.note .debug
      ("Loaded servers for " ++ toString es.length ++ " providers from " ++ shown)
    Servers.ofValue (.map es)
  | _ => throw (.serversNotMapping shown)

namespace Settings

/-- Put a fragment below settings. -/
def mergeFragment (s fragment : Settings) : Task Settings := do
  Part.settings.note .debug "Merged settings fragment"
  return s.merge fragment

/-- Put a fragment on top of settings, if the result is valid. -/
def overrideWith (s fragment : Settings) (servers : Servers) (ipv6 : Bool) : Task Settings :=
  match s.override fragment servers ipv6 with
  | .ok patched => do
    Part.settings.note .debug "Applied settings override"
    return patched
  | .error f => do
    Part.settings.note .warning ("Rejected settings override: " ++ f.message)
    throw f

/-- Complete and valid settings from a file. -/
def load (p : Path) (servers : Servers) (ipv6 : Bool) (env : Secrets) : Task Settings := do
  let p ← (← get).files.settled p
  let s ← mergeFragment {} (← readFragment p env)
  let s := s.withDefaults
  s.validate servers ipv6
  Part.loader.note .debug ("Loaded settings from " ++ p.text)
  return s

/-- Write settings into a file, in place of what is there. -/
def save (s : Settings) (p : Path) : Task Unit := do
  let files := (← get).files
  let p ← files.settled p
  let text ← Document.write s p
  match files.writeFault? p with
  | some f => throw f
  | none => modify fun session => { session with files := files.put p (Files.encode text) }

end Settings
end TunnelSettings
