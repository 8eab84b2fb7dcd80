import TunnelSettings.Failure
import TunnelSettings.Settings.Catalogue
import TunnelSettings.Settings.Layering

/-!
Defaults: the layer that lies below all others. Only the providers that are updated depend on another
field, the tunnel's provider.
-/
namespace TunnelSettings

def ControlServer.defaults : ControlServer := { address := ":8000", log := true }

def Dns.defaults : Dns := {
  serverEnabled := true, address := "127.0.0.1", keepNameserver := false
  upstreamProviders := some ["cloudflare"], caching := true, blockMalicious := true
  blockAds := false, blockSurveillance := false, allowedHosts := some [], updatePeriod := some 86400 }

def Firewall.defaults : Firewall := {
  enabled := true, vpnInputPorts := some [], inputPorts := some [], outboundSubnets := some []
  debug := false }

def Health.defaults : Health := {
  serverAddress := "127.0.0.1:9999", targetAddress := "cloudflare.com:443", successWait := some 5
  vpnInitial := some 6, vpnAddition := some 5 }

def HttpProxy.defaults : HttpProxy := {
  enabled := false, user := "", password := "", listeningAddress := ":8888", stealth := false
  log := false }

def Log.defaults : Log := { level := "info" }

def PublicIp.defaults : PublicIp := {
  period := some 43200, filePath := "/tmp/gluetun/ip", api := "ipinfo", token := "" }

def Shadowsocks.defaults : Shadowsocks := {
  enabled := false, address := ":8388", cipher := "chacha20-ietf-poly1305", password := ""
  log := false }

def System.defaults : System := { userId := some 1000, groupId := some 1000, timezone := "" }

/-- The providers whose servers are updated when nothing is said: the tunnel's own, if it is known. -/
def defaultUpdated (provider : String) : List String :=
  if Text.lower provider = Catalogue.custom then [] else [Text.lower provider]

def Updater.defaults (provider : String) : Updater := {
  period := some 0, dnsAddress := "1.1.1.1:53", minRatio := some Catalogue.defaultMinRatio
  providers := some (defaultUpdated provider) }

def Version.defaults : Version := { enabled := true }

def ServerSelection.defaults : ServerSelection := {
  countries := some [], regions := some [], cities := some [], isps := some [], hostnames := some []
  names := some [] }

/-- The provider of a tunnel for which none is named. -/
def defaultProvider : String := "private internet access"

def Provider.defaults : Provider := { name := defaultProvider, selection := .defaults }

def OpenVpn.defaults : OpenVpn := {
  version := "2.5", user := "", password := "", ciphers := some [], protocol := "udp" }

def Wireguard.defaults : Wireguard := { privateKey := "", addresses := some [], implementation := "auto" }

def Vpn.defaults : Vpn := {
  kind := Catalogue.openvpn, provider := .defaults, openvpn := .defaults, wireguard := .defaults }

def Profiling.defaults : Profiling := {
  enabled := false, blockProfileRate := some 0, mutexProfileRate := some 0, address := "localhost:6060" }

namespace Settings

/-- The layer of defaults for a tunnel through a provider. -/
def defaults (provider : String) : Settings := {
  controlServer := .defaults, dns := .defaults, firewall := .defaults, health := .defaults
  httpProxy := .defaults, log := .defaults, publicIp := .defaults, shadowsocks := .defaults
  system := .defaults, updater := .defaults provider, version := .defaults, vpn := .defaults
  profiling := .defaults }

/-- The provider of the tunnel once defaults are filled in. -/
def effectiveProvider (s : Settings) : String := s.vpn.provider.name.getD defaultProvider

/-- The settings with defaults for what is unset. -/
def withDefaults (s : Settings) : Settings := s.merge (defaults s.effectiveProvider)

end Settings

/-! Defaults can also be filled in group by group. Then the order of the groups matters, since those of the
updater cannot be told before the tunnel has a provider. -/

/-- The groups in the order in which they get their defaults: the updater comes after the tunnel. -/
def Group.inTurn : List Group := [
  .controlServer, .dns, .firewall, .health, .httpProxy, .log, .publicIp, .shadowsocks, .system, .version,
  .vpn, .updater, .profiling]

/-- An updater with its defaults, given the provider of the tunnel, which is needed if nothing is said about
what to update. -/
def Updater.filled (u : Updater) (provider : Option String) : Except Failure Updater :=
  match u.providers, provider with
  | none, none => .error (.noMember "NoneType" "lower")
  | _, _ => .ok (Layered.atop u (.defaults (provider.getD "")))

namespace Settings

/-- The settings with defaults for what is unset in one group. -/
def fillGroup (s : Settings) : Group → Except Failure Settings
  | .controlServer => .ok { s with controlServer := Layered.atop s.controlServer .defaults }
  | .dns => .ok { s with dns := Layered.atop s.dns .defaults }
  | .firewall => .ok { s with firewall := Layered.atop s.firewall .defaults }
  | .health => .ok { s with health := Layered.atop s.health .defaults }
  | .httpProxy => .ok { s with httpProxy := Layered.atop s.httpProxy .defaults }
  | .log => .ok { s with log := Layered.atop s.log .defaults }
  | .publicIp => .ok { s with publicIp := Layered.atop s.publicIp .defaults }
  | .shadowsocks => .ok { s with shadowsocks := Layered.atop s.shadowsocks .defaults }
  | .system => .ok { s with system := Layered.atop s.system .defaults }
  | .updater => do return { s with updater := ← s.updater.filled s.vpn.provider.name }
  | .version => .ok { s with version := Layered.atop s.version .defaults }
  | .vpn => .ok { s with vpn := Layered.atop s.vpn .defaults }
  | .profiling => .ok { s with profiling := Layered.atop s.profiling .defaults }

/-- The settings with defaults for what is unset, one group after another. -/
def fillInTurn (s : Settings) : Except Failure Settings := Group.inTurn.foldlM fillGroup s

end Settings
end TunnelSettings
