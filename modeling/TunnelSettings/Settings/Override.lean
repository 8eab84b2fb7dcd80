import TunnelSettings.Settings.Layering
import TunnelSettings.Settings.Validity

/-!
Overrides: a fragment put on top of settings, all or nothing. It is tried on a copy, which takes the
place of the settings if it is valid; otherwise the override is refused with the complaint about the copy.
-/
namespace TunnelSettings.Settings

/-- What is done to settings in place, and may fail. -/
abbrev Change := ExceptT Failure (StateM Settings)

/-- Put one group of a fragment on top of settings. -/
def overlayGroup (fragment s : Settings) : Group → Settings
  | .controlServer => { s with controlServer := Layered.atop fragment.controlServer s.controlServer }
  | .dns => { s with dns := Layered.atop fragment.dns s.dns }
  | .firewall => { s with firewall := Layered.atop fragment.firewall s.firewall }
  | .health => { s with health := Layered.atop fragment.health s.health }
  | .httpProxy => { s with httpProxy := Layered.atop fragment.httpProxy s.httpProxy }
  | .log => { s with log := Layered.atop fragment.log s.log }
  | .publicIp => { s with publicIp := Layered.atop fragment.publicIp s.publicIp }
  | .shadowsocks => { s with shadowsocks := Layered.atop fragment.shadowsocks s.shadowsocks }
  | .system => { s with system := Layered.atop fragment.system s.system }
  | .updater => { s with updater := Layered.atop fragment.updater s.updater }
  | .version => { s with version := Layered.atop fragment.version s.version }
  | .vpn => { s with vpn := Layered.atop fragment.vpn s.vpn }
  | .profiling => { s with profiling := Layered.atop fragment.profiling s.profiling }

/-- Put a fragment on top of settings in place, unless the result is not valid. -/
def putOnTop (fragment : Settings) (servers : Servers) (ipv6 : Bool) : Change Unit := do
  let patched := Group.all.foldl (overlayGroup fragment) (← get)
  match patched.validate servers ipv6 with
  | .ok () => set patched
  | .error (.invalid g c) => throw (.rejected g c)
  | .error f => throw f

/-- Settings with a fragment on top, or the complaint about them. -/
def override (s fragment : Settings) (servers : Servers) (ipv6 : Bool) : Except Failure Settings :=
  match (putOnTop fragment servers ipv6).run s with
  | (.ok (), patched) => .ok patched
  | (.error f, _) => .error f

end TunnelSettings.Settings
