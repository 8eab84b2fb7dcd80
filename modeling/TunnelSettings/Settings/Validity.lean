import TunnelSettings.Net.Address
import TunnelSettings.Net.HostPort
import TunnelSettings.Net.Network
import TunnelSettings.Servers
import TunnelSettings.Settings.Basic
import TunnelSettings.Settings.Catalogue
import TunnelSettings.Text.Base64

/-!
The rules that settings must keep. A rule gives a complaint where it is broken and `none` where it is
kept; the rules of a group stand in a fixed order, and the first complaint is the one that is reported.
-/
namespace TunnelSettings

/-- A rule that is broken if a condition holds. -/
def refuse (broken : Bool) (c : Complaint) : Option Complaint := if broken then some c else none

/-- The first complaint about the members of a list that may be unset. -/
def complaintAmong {α : Type} (rule : α → Option Complaint) (xs : Option (List α)) : Option Complaint :=
  (xs.getD []).findSome? rule

/-- A field that must hold one of the known names, in any letter case. -/
def choiceComplaint? (field : String) (choice : Option String) (known : List String) : Option Complaint :=
  refuse (!isOneOf choice known) (.unknownChoice field choice known)

/-- A field that must hold one of the known names, in the same letters. -/
def exactChoiceComplaint? (field : String) (choice : Option String) (known : List String) :
    Option Complaint :=
  refuse (!choice.any known.contains) (.unknownChoice field choice known)

/-- A period is either zero or not shorter than the least one. -/
def periodComplaint? (field : String) (period : Option Int) (minimum : Int) : Option Complaint :=
  match period with
  | none => some (.periodNegative field none)
  | some p =>
    (refuse (p < 0) (.periodNegative field period)).or
      (refuse (0 < p && p < minimum) (.periodTooShort field p minimum))

/-- A duration has to be set and positive. -/
def durationComplaint? (field : String) (duration : Option Int) : Option Complaint :=
  refuse (!duration.any (0 < ·)) (.durationNotPositive field duration)

/-- A number has to be set and must not be negative. -/
def negativeComplaint? (field : String) (n : Option Int) : Option Complaint :=
  refuse (!n.any (0 ≤ ·)) (.negative field n)

/-- Whether a text is unset or empty. -/
def isBare (s : Option String) : Bool := !s.any fun s => !s.isEmpty

/-- Whether a flag is set to yes. -/
def isOn (b : Option Bool) : Bool := b.getD false

def ControlServer.complaint? (c : ControlServer) : Option Complaint :=
  Net.addressComplaint? "listening address" c.address

def Dns.upstreamComplaint? (name : String) : Option Complaint :=
  refuse (!isOneOf name Catalogue.upstreamProviders) (.unknownUpstream name Catalogue.upstreamProviders)

def Dns.complaint? (d : Dns) : Option Complaint :=
  (refuse (!Net.isAddress (d.address.getD "")) (.notAnAddress d.address)).or <|
  (refuse (isOn d.serverEnabled && (d.upstreamProviders.getD []).isEmpty) .noUpstream).or <|
  (complaintAmong Dns.upstreamComplaint? d.upstreamProviders).or <|
  periodComplaint? "update period" d.updatePeriod Catalogue.minDnsPeriod

def Firewall.portComplaint? (field : String) (port : Int) : Option Complaint :=
  refuse (port < 1 || 65535 < port) (.firewallPort field port)

/-- A network beside the tunnel must fix at least one bit. -/
def Firewall.subnetComplaint? (subnet : String) : Option Complaint :=
  match Net.network? subnet with
  | none => some (.notANetwork subnet)
  | some n => refuse (n.fixedBits = 0) (.defaultRoute subnet)

def Firewall.complaint? (f : Firewall) : Option Complaint :=
  (complaintAmong (portComplaint? "VPN input") f.vpnInputPorts).or <|
  (complaintAmong (portComplaint? "input") f.inputPorts).or <|
  complaintAmong subnetComplaint? f.outboundSubnets

def Health.complaint? (h : Health) : Option Complaint :=
  (Net.addressComplaint? "server listening address" h.serverAddress).or <|
  (Net.addressComplaint? "target address" h.targetAddress).or <|
  (durationComplaint? "success wait duration" h.successWait).or <|
  (durationComplaint? "VPN initial duration" h.vpnInitial).or <|
  durationComplaint? "VPN addition duration" h.vpnAddition

def HttpProxy.complaint? (h : HttpProxy) : Option Complaint :=
  Net.addressComplaint? "listening address" h.listeningAddress

def Log.complaint? (l : Log) : Option Complaint :=
  choiceComplaint? "level" l.level Catalogue.logLevels

def PublicIp.complaint? (p : PublicIp) : Option Complaint :=
  (periodComplaint? "period" p.period Catalogue.minPublicIpPeriod).or <|
  (refuse (p.period.getD 0 ≠ 0 && isBare p.filePath) .filePathUnset).or <|
  choiceComplaint? "API" p.api Catalogue.publicIpApis

def Shadowsocks.complaint? (s : Shadowsocks) : Option Complaint :=
  (Net.addressComplaint? "listening address" s.address).or <|
  (choiceComplaint? "cipher" s.cipher Catalogue.shadowsocksCiphers).or <|
  refuse (isOn s.enabled && isBare s.password) .serverPasswordUnset

def System.complaint? (s : System) : Option Complaint :=
  (negativeComplaint? "process user ID" s.userId).or <|
  negativeComplaint? "process group ID" s.groupId

/-- A ratio is refused if it is at most zero or greater than one. -/
def Updater.ratioComplaint? (ratio : Option Binary64) : Option Complaint :=
  refuse (ratio.all fun r => r.le (.zero false) || Binary64.one.lt r) (.ratioOutOfRange ratio)

def Updater.providerComplaint? (name : String) : Option Complaint :=
  refuse (Text.lower name = Catalogue.custom || !isOneOf name Catalogue.providers) (.notUpdatable name)

def Updater.complaint? (u : Updater) : Option Complaint :=
  (periodComplaint? "period" u.period Catalogue.minUpdaterPeriod).or <|
  (Net.addressComplaint? "DNS address" u.dnsAddress).or <|
  (ratioComplaint? u.minRatio).or <|
  complaintAmong providerComplaint? u.providers

def Version.complaint? (_ : Version) : Option Complaint := none

/-- A filter may only name what the provider offers, in any letter case. -/
def ServerSelection.filterComplaint? (field provider : String) (wanted : Option (List String))
    (offered : List String) : Option Complaint :=
  complaintAmong (fun (value : String) =>
    refuse (!isOneOf value offered) (.filterUnavailable field value provider offered)) wanted

/-- Filters for the servers of the custom provider are not checked, since its servers are not known. -/
def ServerSelection.complaint? (s : ServerSelection) (provider : String) (servers : Servers) :
    Option Complaint :=
  let provider := Text.lower provider
  if provider = Catalogue.custom then none else
    let offered := servers.choices provider
    (filterComplaint? "countries" provider s.countries offered.countries).or <|
    (filterComplaint? "regions" provider s.regions offered.regions).or <|
    (filterComplaint? "cities" provider s.cities offered.cities).or <|
    (filterComplaint? "isps" provider s.isps offered.isps).or <|
    (filterComplaint? "hostnames" provider s.hostnames offered.hostnames).or <|
    filterComplaint? "names" provider s.names offered.names

def Provider.complaint? (p : Provider) (kind : String) (servers : Servers) : Option Complaint :=
  let name := p.name.getD ""
  (refuse (!isOneOf p.name Catalogue.providers) (.unknownProvider p.name)).or <|
  (refuse (kind = Catalogue.wireguard && !isOneOf p.name Catalogue.wireguardProviders)
    (.withoutWireguard name)).or <|
  (p.selection.complaint? name servers).map (.inside "server selection")

def OpenVpn.cipherComplaint? (cipher : String) : Option Complaint :=
  refuse (Text.trim cipher).isEmpty .emptyCipher

/-- Which credentials are needed depends on the provider. -/
def OpenVpn.complaint? (o : OpenVpn) (provider : String) : Option Complaint :=
  let provider := Text.lower provider
  let needsUser := !Catalogue.withoutUser.contains provider
  let needsPassword := needsUser && !Catalogue.withoutPassword.contains provider
  (exactChoiceComplaint? "version" o.version Catalogue.openvpnVersions).or <|
  (choiceComplaint? "protocol" o.protocol Catalogue.openvpnProtocols).or <|
  (refuse (needsUser && isBare o.user) (.userUnset provider)).or <|
  (refuse (needsPassword && isBare o.password) (.passwordUnset provider)).or <|
  complaintAmong cipherComplaint? o.ciphers

/-- A private key is thirty-two bytes in base sixty-four. -/
def Wireguard.keyComplaint? (key : Option String) : Option Complaint :=
  if isBare key then some .keyUnset else
    match Text.base64Length? (key.getD "") with
    | none => some .keyNotBase64
    | some n => refuse (n ≠ 32) (.keyLength n)

def Wireguard.interfaceComplaint? (ipv6 : Bool) (address : String) : Option Complaint :=
  match Net.network? address with
  | none => some (.interfaceNotANetwork address)
  | some n => refuse (n.version = .six && !ipv6) (.interfaceNeedsIPv6 address)

/-- `ipv6` says whether the host can use the longer kind of address. -/
def Wireguard.complaint? (w : Wireguard) (ipv6 : Bool) : Option Complaint :=
  (keyComplaint? w.privateKey).or <|
  (refuse (w.addresses.getD []).isEmpty .noInterfaceAddress).or <|
  (complaintAmong (interfaceComplaint? ipv6) w.addresses).or <|
  exactChoiceComplaint? "implementation" w.implementation Catalogue.wireguardImplementations

/-- The complaint about the part of the tunnel that its kind selects. -/
def Vpn.activeComplaint? (v : Vpn) (ipv6 : Bool) : Option Complaint :=
  if v.kind = some Catalogue.openvpn then
    (v.openvpn.complaint? (v.provider.name.getD "")).map (.inside "OpenVPN settings")
  else (v.wireguard.complaint? ipv6).map (.inside "Wireguard settings")

def Vpn.complaint? (v : Vpn) (servers : Servers) (ipv6 : Bool) : Option Complaint :=
  (exactChoiceComplaint? "VPN type" v.kind Catalogue.tunnelKinds).or <|
  ((v.provider.complaint? (v.kind.getD "") servers).map (.inside "provider settings")).or <|
  v.activeComplaint? ipv6

def Profiling.complaint? (p : Profiling) : Option Complaint :=
  (negativeComplaint? "block profile rate" p.blockProfileRate).or <|
  (negativeComplaint? "mutex profile rate" p.mutexProfileRate).or <|
  Net.addressComplaint? "server address" p.address

namespace Settings

/-- The complaint about one group. -/
def groupComplaint? (s : Settings) (servers : Servers) (ipv6 : Bool) : Group → Option Complaint
  | .controlServer => s.controlServer.complaint?
  | .dns => s.dns.complaint?
  | .firewall => s.firewall.complaint?
  | .health => s.health.complaint?
  | .httpProxy => s.httpProxy.complaint?
  | .log => s.log.complaint?
  | .publicIp => s.publicIp.complaint?
  | .shadowsocks => s.shadowsocks.complaint?
  | .system => s.system.complaint?
  | .updater => s.updater.complaint?
  | .version => s.version.complaint?
  | .vpn => s.vpn.complaint? servers ipv6
  | .profiling => s.profiling.complaint?

/-- The first group with a complaint, and its complaint. -/
def complaint? (s : Settings) (servers : Servers) (ipv6 : Bool) : Option (Group × Complaint) :=
  Group.all.findSome? fun g => (s.groupComplaint? servers ipv6 g).map (g, ·)

/-- Settings are valid if no group has a complaint. -/
def validate (s : Settings) (servers : Servers) (ipv6 : Bool) : Except Failure Unit :=
  match s.complaint? servers ipv6 with
  | none => .ok ()
  | some (g, c) => .error (.invalid g c)

end Settings
end TunnelSettings
