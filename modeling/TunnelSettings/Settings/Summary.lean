import TunnelSettings.Display.Outline
import TunnelSettings.Failure
import TunnelSettings.Settings.Basic
import TunnelSettings.Settings.Catalogue

/-!
The summary of settings as a tree: a node for each group, which shows what is in effect and hides
secrets. An integer with too many digits cannot be shown, and neither can an updater that is enabled
without a ratio.
-/
namespace TunnelSettings

open Display (Outline)

namespace Show

def yesNo (b : Option Bool) : String := if b.getD false then "yes" else "no"

/-- Says of a secret only whether there is one. -/
def secret (s : Option String) : String := if (s.getD "").isEmpty then "[not set]" else "[set]"

/-- A text, or a word for the lack of it. -/
def text (s : Option String) : String := s.getD "None"

def list (xs : List String) : String := Complaint.commaListOrNone xs

def integer (n : Option Int) : Except Failure String :=
  match n with
  | some n => (writeInteger n).mapError .number
  | none => .ok "None"

def integers (ns : List Int) : Except Failure String := do
  return list (← ns.mapM fun n => integer (some n))

/-- A duration in hours, minutes and seconds; an unset one counts as zero. -/
def duration (seconds : Option Int) : Except Failure String :=
  (durationText (seconds.getD 0)).mapError .number

/-- A line for a list, left out if the list is empty. -/
def listLine (label : String) (xs : Option (List String)) : List Outline :=
  if (xs.getD []).isEmpty then [] else [.leaf (label ++ ": " ++ list (xs.getD []))]

def integersLine (label : String) (ns : Option (List Int)) : Except Failure (List Outline) := do
  if (ns.getD []).isEmpty then return []
  return [.leaf (label ++ ": " ++ (← integers (ns.getD [])))]

/-- Whether a number is set and not zero. -/
def isNonzero (n : Option Int) : Bool := n.getD 0 ≠ 0

end Show

open Show

def ControlServer.summary (c : ControlServer) : Outline :=
  .node "Control server settings:" [
    .leaf ("Listening address: " ++ text c.address),
    .leaf ("Logging: " ++ yesNo c.log)]

def Dns.filteringSummary (d : Dns) : Except Failure Outline := do
  let update ←
    if isNonzero d.updatePeriod then pure ("every " ++ (← duration d.updatePeriod)) else pure "disabled"
  return .node "DNS filtering settings:" (
    [.leaf ("Block malicious: " ++ yesNo d.blockMalicious),
      .leaf ("Block ads: " ++ yesNo d.blockAds),
      .leaf ("Block surveillance: " ++ yesNo d.blockSurveillance)] ++
    listLine "Allowed hosts" d.allowedHosts ++
    [.leaf ("Update period: " ++ update)])

def Dns.summary (d : Dns) : Except Failure Outline := do
  let server ←
    if d.serverEnabled.getD false then
      pure <| Outline.node "DNS over TLS server:" [
        .leaf ("Upstream providers: " ++ list (d.upstreamProviders.getD [])),
        .leaf ("Caching: " ++ yesNo d.caching),
        ← d.filteringSummary]
    else pure <| Outline.leaf "DNS over TLS server: disabled"
  return .node "DNS settings:" [
    .leaf ("Keep existing nameserver(s): " ++ yesNo d.keepNameserver),
    .leaf ("DNS server address to use: " ++ text d.address),
    server]

def Firewall.summary (f : Firewall) : Except Failure Outline := do
  if !f.enabled.getD false then return .node "Firewall settings:" [.leaf "Enabled: no"]
  let debug := if f.debug.getD false then [Outline.leaf "Debug mode: on"] else []
  let vpnPorts ← integersLine "VPN input ports" f.vpnInputPorts
  let ports ← integersLine "Input ports" f.inputPorts
  return .node "Firewall settings:" (
    [.leaf "Enabled: yes"] ++ debug ++ vpnPorts ++ ports ++
    listLine "Outbound subnets" f.outboundSubnets)

def Health.summary (h : Health) : Except Failure Outline := do
  let wait ← duration h.successWait
  let initial ← duration h.vpnInitial
  let addition ← duration h.vpnAddition
  return .node "Health settings:" [
    .leaf ("Server listening address: " ++ text h.serverAddress),
    .leaf ("Target address: " ++ text h.targetAddress),
    .leaf ("Duration to wait after success: " ++ wait),
    .node "VPN wait durations:" [
      .leaf ("Initial duration: " ++ initial),
      .leaf ("Additional duration: " ++ addition)]]

def HttpProxy.summary (h : HttpProxy) : Outline :=
  if !h.enabled.getD false then .node "HTTP proxy settings:" [.leaf "Enabled: no"] else
    let user := h.user.getD ""
    .node "HTTP proxy settings:" [
      .leaf ("Listening address: " ++ text h.listeningAddress),
      .leaf ("User: " ++ if user.isEmpty then "[not set]" else user),
      .leaf ("Password: " ++ secret h.password),
      .leaf ("Stealth mode: " ++ yesNo h.stealth),
      .leaf ("Log: " ++ yesNo h.log)]

def Log.summary (l : Log) : Outline := .node "Log settings:" [.leaf ("Log level: " ++ text l.level)]

def PublicIp.summary (p : PublicIp) : Except Failure Outline := do
  if !isNonzero p.period then return .node "Public IP settings:" [.leaf "Enabled: no"]
  let token := if (p.token.getD "").isEmpty then [] else [Outline.leaf ("API token: " ++ secret p.token)]
  return .node "Public IP settings:" (
    [.leaf ("Fetching: every " ++ (← duration p.period)),
      .leaf ("IP file path: " ++ text p.filePath),
      .leaf ("Public IP data API: " ++ text p.api)] ++ token)

def Shadowsocks.summary (s : Shadowsocks) : Outline :=
  if !s.enabled.getD false then .node "Shadowsocks server settings:" [.leaf "Enabled: no"] else
    .node "Shadowsocks server settings:" [
      .leaf ("Listening address: " ++ text s.address),
      .leaf ("Cipher: " ++ text s.cipher),
      .leaf ("Password: " ++ secret s.password),
      .leaf ("Log: " ++ yesNo s.log)]

def System.summary (s : System) : Except Failure Outline := do
  let timezone := s.timezone.getD ""
  let user ← integer s.userId
  let group ← integer s.groupId
  return .node "System settings:" (
    [.leaf ("Process UID: " ++ user), .leaf ("Process GID: " ++ group)] ++
    if timezone.isEmpty then [] else [.leaf ("Timezone: " ++ timezone)])

def Updater.summary (u : Updater) : Except Failure Outline := do
  if !isNonzero u.period then
    return .node "Server data updater settings:" [.leaf "Update period: disabled"]
  let period ← duration u.period
  let ratio ← match u.minRatio with
    | some r => pure (r.fixed 1)
    | none => throw .noRatio
  return .node "Server data updater settings:" [
    .leaf ("Update period: every " ++ period),
    .leaf ("DNS address: " ++ text u.dnsAddress),
    .leaf ("Minimum ratio: " ++ ratio),
    .leaf ("Providers to update: " ++ list (u.providers.getD []))]

def Version.summary (v : Version) : Outline :=
  .node "Version settings:" [.leaf ("Enabled: " ++ yesNo v.enabled)]

def ServerSelection.summary (s : ServerSelection) : Outline :=
  .node "Server selection settings:" (
    listLine "Countries" s.countries ++ listLine "Regions" s.regions ++ listLine "Cities" s.cities ++
    listLine "ISPs" s.isps ++ listLine "Hostnames" s.hostnames ++ listLine "Server names" s.names)

/-- Without any filter the selection of servers is left out. -/
def Provider.summary (p : Provider) : Outline :=
  let selection := p.selection.summary
  .node (Text.title (p.name.getD "") ++ " settings:")
    (if selection.children.isEmpty then [] else [selection])

def OpenVpn.summary (o : OpenVpn) : Outline :=
  .node "OpenVPN settings:" (
    [.leaf ("OpenVPN version: " ++ text o.version),
      .leaf ("User: " ++ secret o.user),
      .leaf ("Password: " ++ secret o.password),
      .leaf ("Protocol: " ++ text o.protocol)] ++
    listLine "Ciphers" o.ciphers)

def Wireguard.summary (w : Wireguard) : Outline :=
  .node "Wireguard settings:" [
    .leaf ("Private key: " ++ secret w.privateKey),
    .leaf ("Interface addresses: " ++ list (w.addresses.getD [])),
    .leaf ("Implementation: " ++ text w.implementation)]

/-- Of the two kinds of tunnel only the one in use is shown. -/
def Vpn.summary (v : Vpn) : Outline :=
  .node "VPN settings:" [
    v.provider.summary,
    if v.kind = some Catalogue.openvpn then v.openvpn.summary else v.wireguard.summary]

def Profiling.summary (p : Profiling) : Except Failure Outline := do
  if !p.enabled.getD false then return .node "Profiling settings:" [.leaf "Enabled: no"]
  let blockRate ← integer p.blockProfileRate
  let mutexRate ← integer p.mutexProfileRate
  return .node "Profiling settings:" [
    .leaf ("Server address: " ++ text p.address),
    .leaf ("Block profile rate: " ++ blockRate),
    .leaf ("Mutex profile rate: " ++ mutexRate)]

namespace Settings

/-- The summary of all settings, in the order in which it is read. -/
def summary (s : Settings) : Except Failure Outline := do
  return .node "Settings summary:" [
    s.vpn.summary,
    ← s.dns.summary,
    ← s.firewall.summary,
    s.log.summary,
    ← s.health.summary,
    s.shadowsocks.summary,
    s.httpProxy.summary,
    s.controlServer.summary,
    ← s.system.summary,
    ← s.publicIp.summary,
    ← s.updater.summary,
    s.version.summary,
    ← s.profiling.summary]

/-- The summary as text. -/
def summaryText (s : Settings) : Except Failure String := do
  return (← s.summary).render Outline.summaryWidth

end Settings
end TunnelSettings
